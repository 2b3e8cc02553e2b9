import Sonde.Lib.Except
import Sonde.Lib.Cbor

namespace Sonde.Protocol
open Lib List

def msgWake : BitVec 8 := 0x01
def msgGetChunk : BitVec 8 := 0x02
def msgProgramAck : BitVec 8 := 0x03
def msgAppData : BitVec 8 := 0x04
def msgPeerRequest : BitVec 8 := 0x05
def msgDiagRequest : BitVec 8 := 0x06
def msgCommand : BitVec 8 := 0x81
def msgChunk : BitVec 8 := 0x82
def msgAppDataReply : BitVec 8 := 0x83
def msgPeerAck : BitVec 8 := 0x84
def msgDiagReply : BitVec 8 := 0x85

def cmdNop : Nat := 0
def cmdUpdateProgram : Nat := 1
def cmdRunEphemeral : Nat := 2
def cmdUpdateSchedule : Nat := 3
def cmdReboot : Nat := 4

def keyFirmwareAbiVersion : Nat := 1
def keyProgramHash : Nat := 2
def keyBatteryMv : Nat := 3
def keyCommandType : Nat := 4
def keyPayload : Nat := 5
def keyProgramSize : Nat := 6
def keyChunkSize : Nat := 7
def keyChunkCount : Nat := 8
def keyIntervalS : Nat := 9
def keyBlob : Nat := 10
def keyChunkIndex : Nat := 11
def keyChunkData : Nat := 12
def keyStartingSeq : Nat := 13
def keyTimestampMs : Nat := 14
def keyFirmwareVersion : Nat := 15

def diagKeyDiagnosticType : Nat := 1
def diagKeyRssiDbm : Nat := 2
def diagTypeRssi : Nat := 1

def maxStringFieldLen : Nat := 32

inductive NodeMessage where
  | wake (firmwareAbiVersion : Nat) (programHash : Bytes) (batteryMv : Nat) (firmwareVersion : Bytes)
      (blob : Option Bytes)
  | getChunk (chunkIndex : Nat)
  | programAck (programHash : Bytes)
  | appData (blob : Bytes)
  | diagRequest (diagnosticType : Nat)
  deriving DecidableEq, Repr

inductive CommandPayload where
  | nop
  | updateProgram (programHash : Bytes) (programSize chunkSize chunkCount : Nat)
  | runEphemeral (programHash : Bytes) (programSize chunkSize chunkCount : Nat)
  | updateSchedule (intervalS : Nat)
  | reboot
  deriving DecidableEq, Repr

def CommandPayload.commandType : CommandPayload → Nat
  | .nop => cmdNop
  | .updateProgram .. => cmdUpdateProgram
  | .runEphemeral .. => cmdRunEphemeral
  | .updateSchedule _ => cmdUpdateSchedule
  | .reboot => cmdReboot

inductive GatewayMessage where
  | command (startingSeq timestampMs : BitVec 64) (payload : CommandPayload) (blob : Option Bytes)
  | chunk (chunkIndex : Nat) (chunkData : Bytes)
  | appDataReply (blob : Bytes)
  | diagReply (diagnosticType : Nat) (rssiDbm : BitVec 8)
  deriving DecidableEq, Repr

open GatewayMessage

inductive DecodeError where
  | tooShort
  | tooLong
  | authenticationFailed
  | invalidMsgType (msgType : BitVec 8)
  | invalidCommandType (commandType : Nat)
  | missingField (key : Nat)
  | invalidFieldType (key : Nat)
  | cborError (message : String)
  deriving DecidableEq, Repr

abbrev Fields := List (Nat × Cbor)

def asInteger : Cbor → Option Int
  | .unsigned n => some n
  | .negative n => some (-1 - n)
  | _ => none

def asU64 (value : Cbor) : Option Nat := do
  let i ← asInteger value
  if 0 ≤ i ∧ i < 2 ^ 64 then some i.toNat else none

def asBytes : Cbor → Option Bytes
  | .bytes data => some data
  | _ => none

def asText : Cbor → Option Bytes
  | .text utf8 => some utf8
  | _ => none

def cborEncodeMap (pairs : Fields) : Bytes := (Cbor.map (pairs.map fun (k, v) => (.unsigned k, v))).encode

def collectFields : List (Cbor × Cbor) → Except DecodeError Fields
  | [] => .ok []
  | (k, v) :: pairs =>
    match asInteger k with
    | none => collectFields pairs
    | some _ =>
      match asU64 k with
      | none => .error (.cborError "negative CBOR key")
      | some key => do
        let fields ← collectFields pairs
        .ok ((key, v) :: fields)

def cborDecodeMap (reader : Cbor.Reader) (cbor : Bytes) : Except DecodeError Fields :=
  match reader.fromReader cbor with
  | .error e => .error (.cborError e)
  | .ok (.map pairs) => collectFields pairs
  | .ok _ => .error (.cborError "expected CBOR map")

def findField (fields : Fields) (key : Nat) : Option Cbor := (fields.find? (·.1 = key)).map (·.2)

def getField (fields : Fields) (key : Nat) : Except DecodeError Cbor :=
  match findField fields key with
  | some v => .ok v
  | none => .error (.missingField key)

def fieldAs {α : Type} (view : Cbor → Option α) (fields : Fields) (key : Nat) : Except DecodeError α := do
  let v ← getField fields key
  match view v with
  | some a => .ok a
  | none => .error (.invalidFieldType key)

def getUint : Fields → Nat → Except DecodeError Nat := fieldAs asU64

def getU32 : Fields → Nat → Except DecodeError Nat := fieldAs fun v => (asU64 v).filter (· < 2 ^ 32)

def getU8 : Fields → Nat → Except DecodeError Nat := fieldAs fun v => (asU64 v).filter (· < 2 ^ 8)

def asI8 (value : Cbor) : Option (BitVec 8) := do
  let i ← asInteger value
  if -128 ≤ i ∧ i ≤ 127 then some (BitVec.ofInt 8 i) else none

def getI8 : Fields → Nat → Except DecodeError (BitVec 8) := fieldAs asI8

def getBytes : Fields → Nat → Except DecodeError Bytes := fieldAs asBytes

def getBytesOptional (fields : Fields) (key : Nat) : Except DecodeError (Option Bytes) :=
  match findField fields key with
  | none => .ok none
  | some v =>
    match asBytes v with
    | some data => .ok (some data)
    | none => .error (.invalidFieldType key)

def getString : Fields → Nat → Except DecodeError Bytes :=
  fieldAs fun v => (asText v).filter fun s => s.length ≤ maxStringFieldLen && Cbor.isAscii s

def decodeNestedMap (fields : Fields) (key : Nat) : Except DecodeError Fields := do
  let v ← getField fields key
  match v with
  | .map pairs => .ok (pairs.filterMap fun (k, v) => (asU64 k).map (·, v))
  | _ => .error (.invalidFieldType key)

def intVal (i : Int) : Cbor := if 0 ≤ i then .unsigned i.toNat else .negative (-1 - i).toNat

def NodeMessage.pairs : NodeMessage → Fields
  | .wake firmwareAbiVersion programHash batteryMv firmwareVersion blob =>
    [(keyFirmwareAbiVersion, .unsigned firmwareAbiVersion), (keyProgramHash, .bytes programHash),
      (keyBatteryMv, .unsigned batteryMv)] ++
    (blob.toList.map fun b => (keyBlob, .bytes b)) ++ [(keyFirmwareVersion, .text firmwareVersion)]
  | .getChunk chunkIndex => [(keyChunkIndex, .unsigned chunkIndex)]
  | .programAck programHash => [(keyProgramHash, .bytes programHash)]
  | .appData blob => [(keyBlob, .bytes blob)]
  | .diagRequest diagnosticType => [(diagKeyDiagnosticType, .unsigned diagnosticType)]

def NodeMessage.encode (message : NodeMessage) : Bytes := cborEncodeMap message.pairs

def NodeMessage.msgType : NodeMessage → BitVec 8
  | .wake .. => msgWake
  | .getChunk _ => msgGetChunk
  | .programAck _ => msgProgramAck
  | .appData _ => msgAppData
  | .diagRequest _ => msgDiagRequest

def CommandPayload.payloadVal : CommandPayload → Option Cbor
  | .nop | .reboot => none
  | .updateProgram programHash programSize chunkSize chunkCount
  | .runEphemeral programHash programSize chunkSize chunkCount =>
    some (.map [(.unsigned keyProgramHash, .bytes programHash), (.unsigned keyProgramSize, .unsigned programSize),
      (.unsigned keyChunkSize, .unsigned chunkSize), (.unsigned keyChunkCount, .unsigned chunkCount)])
  | .updateSchedule intervalS => some (.map [(.unsigned keyIntervalS, .unsigned intervalS)])

def GatewayMessage.pairs : GatewayMessage → Fields
  | .command startingSeq timestampMs payload blob =>
    [(keyCommandType, .unsigned payload.commandType)] ++ (payload.payloadVal.toList.map fun v => (keyPayload, v)) ++
    (if payload = .nop then blob.toList.map fun b => (keyBlob, .bytes b) else []) ++
    [(keyStartingSeq, .unsigned startingSeq.toNat), (keyTimestampMs, .unsigned timestampMs.toNat)]
  | .chunk chunkIndex chunkData => [(keyChunkIndex, .unsigned chunkIndex), (keyChunkData, .bytes chunkData)]
  | .appDataReply blob => [(keyBlob, .bytes blob)]
  | .diagReply diagnosticType rssiDbm =>
    [(diagKeyDiagnosticType, .unsigned diagnosticType), (diagKeyRssiDbm, intVal rssiDbm.toInt)]

def GatewayMessage.encode (message : GatewayMessage) : Bytes := cborEncodeMap message.pairs

def GatewayMessage.msgType : GatewayMessage → BitVec 8
  | .command .. => msgCommand
  | .chunk .. => msgChunk
  | .appDataReply _ => msgAppDataReply
  | .diagReply .. => msgDiagReply

def NodeMessage.decode (reader : Cbor.Reader) (msgType : BitVec 8) (cbor : Bytes) : Except DecodeError NodeMessage := do
  let fields ← cborDecodeMap reader cbor
  if msgType = msgWake then
    let firmwareAbiVersion ← getU32 fields keyFirmwareAbiVersion
    let programHash ← getBytes fields keyProgramHash
    let batteryMv ← getU32 fields keyBatteryMv
    let firmwareVersion ← getString fields keyFirmwareVersion
    let blob ← getBytesOptional fields keyBlob
    .ok (.wake firmwareAbiVersion programHash batteryMv firmwareVersion blob)
  else if msgType = msgGetChunk then do
    let chunkIndex ← getU32 fields keyChunkIndex
    .ok (.getChunk chunkIndex)
  else if msgType = msgProgramAck then do
    let programHash ← getBytes fields keyProgramHash
    .ok (.programAck programHash)
  else if msgType = msgAppData then do
    let blob ← getBytes fields keyBlob
    .ok (.appData blob)
  else if msgType = msgDiagRequest then do
    let diagnosticType ← getU8 fields diagKeyDiagnosticType
    .ok (.diagRequest diagnosticType)
  else .error (.invalidMsgType msgType)

def CommandPayload.decode (fields : Fields) (commandType : Nat) : Except DecodeError CommandPayload :=
  if commandType = cmdNop then .ok .nop
  else if commandType = cmdReboot then .ok .reboot
  else if commandType = cmdUpdateProgram ∨ commandType = cmdRunEphemeral then do
    let inner ← decodeNestedMap fields keyPayload
    let programHash ← getBytes inner keyProgramHash
    let programSize ← getU32 inner keyProgramSize
    let chunkSize ← getU32 inner keyChunkSize
    let chunkCount ← getU32 inner keyChunkCount
    if commandType = cmdUpdateProgram then .ok (.updateProgram programHash programSize chunkSize chunkCount)
    else .ok (.runEphemeral programHash programSize chunkSize chunkCount)
  else if commandType = cmdUpdateSchedule then do
    let inner ← decodeNestedMap fields keyPayload
    let intervalS ← getU32 inner keyIntervalS
    .ok (.updateSchedule intervalS)
  else .error (.invalidCommandType commandType)

def GatewayMessage.decode (reader : Cbor.Reader) (msgType : BitVec 8) (cbor : Bytes) :
    Except DecodeError GatewayMessage := do
  let fields ← cborDecodeMap reader cbor
  if msgType = msgCommand then
    let commandType ← getU8 fields keyCommandType
    let startingSeq ← getUint fields keyStartingSeq
    let timestampMs ← getUint fields keyTimestampMs
    let payload ← CommandPayload.decode fields commandType
    let blob ← if commandType = cmdNop then getBytesOptional fields keyBlob else .ok none
    .ok (.command (BitVec.ofNat 64 startingSeq) (BitVec.ofNat 64 timestampMs) payload blob)
  else if msgType = msgChunk then do
    let chunkIndex ← getU32 fields keyChunkIndex
    let chunkData ← getBytes fields keyChunkData
    .ok (.chunk chunkIndex chunkData)
  else if msgType = msgAppDataReply then do
    let blob ← getBytes fields keyBlob
    .ok (.appDataReply blob)
  else if msgType = msgDiagReply then do
    let diagnosticType ← getU8 fields diagKeyDiagnosticType
    let rssiDbm ← getI8 fields diagKeyRssiDbm
    .ok (.diagReply diagnosticType rssiDbm)
  else .error (.invalidMsgType msgType)

def FieldsFit (fields : Fields) : Prop := fields.length < 2 ^ 64 ∧ ∀ field ∈ fields, field.1 < 2 ^ 64 ∧ field.2.Fits

variable {fields : Fields}

theorem fitEntries_of_forall {levels : Nat} {entries : List (Cbor × Cbor)}
    (fits : ∀ entry ∈ entries, entry.1.FitsIn levels ∧ entry.2.FitsIn levels) : Cbor.FitEntries levels entries := by
  induction entries with
  | nil => exact trivial
  | cons entry rest ih =>
    obtain ⟨key, value⟩ := fits entry mem_cons_self
    exact ⟨key, value, ih fun e member => fits e (mem_cons_of_mem _ member)⟩

theorem fitEntries_fields (fits : ∀ field ∈ fields, field.1 < 2 ^ 64 ∧ field.2.Fits) :
    Cbor.FitEntries (Cbor.recursionLimit - 1) (fields.map fun (k, v) => (.unsigned k, v)) :=
  fitEntries_of_forall (forall_mem_map.mpr fits)

variable {v : Cbor}

theorem asU64_of_integer {i : Int} (integer : asInteger v = some i) :
    asU64 v = if 0 ≤ i ∧ i < 2 ^ 64 then some i.toNat else none := by
  unfold asU64
  rw [integer]
  rfl

variable {n : Nat}

theorem asU64_unsigned (fits : n < 2 ^ 64) : asU64 (.unsigned n) = some n := by
  have integer : asInteger (.unsigned n) = some (n : Int) := rfl
  rw [asU64_of_integer integer, if_pos (by omega), Int.toNat_natCast]

theorem asU64_filter {bound : Nat} (fits : n < bound) (small : bound ≤ 2 ^ 64) :
    (asU64 (.unsigned n)).filter (· < bound) = some n := by
  rw [asU64_unsigned (fits.trans_le small), Option.filter_some_pos (by simpa using fits)]

variable {key : Nat}

theorem fieldAs_found {α β : Type} {view : Cbor → Option α} {a : α} {f : α → Except DecodeError β} {b : β}
    (found : findField fields key = some v) (viewed : view v = some a) (rest : f a = .ok b) :
    (fieldAs view fields key >>= f) = .ok b := by
  refine bind_eq_ok.mpr ⟨a, ?_, rest⟩
  simp only [fieldAs, getField, found]
  change (match view v with | some a => Except.ok a | none => Except.error _) = _
  rw [viewed]

theorem collectFields_fields (fits : ∀ field ∈ fields, field.1 < 2 ^ 64 ∧ field.2.Fits) :
    collectFields (fields.map fun (k, v) => (.unsigned k, v)) = .ok fields := by
  induction fields with
  | nil => rfl
  | cons field rest ih =>
    have tail := ih fun f member => fits f (mem_cons_of_mem _ member)
    have key := asU64_unsigned (fits field mem_cons_self).1
    simp only [map_cons, collectFields, key, tail]
    rfl

theorem cborDecodeMap_encode (reader : Cbor.Reader) (fit : FieldsFit fields) :
    cborDecodeMap reader (cborEncodeMap fields) = .ok fields := by
  have fits : (Cbor.map (fields.map fun (k, v) => (.unsigned k, v))).FitsIn Cbor.recursionLimit :=
    ⟨by decide, by simpa using fit.1, fitEntries_fields fit.2⟩
  simp only [cborDecodeMap, cborEncodeMap, reader.fromReader_encode _ fits, collectFields_fields fit.2]

/-! ### What a decoder reads -/

def Agrees (keys : List Nat) (fields pairs : Fields) : Prop := ∀ key ∈ keys, findField fields key = findField pairs key

def NodeMessage.keys : NodeMessage → List Nat
  | .wake .. => [keyFirmwareAbiVersion, keyProgramHash, keyBatteryMv, keyBlob, keyFirmwareVersion]
  | .getChunk _ => [keyChunkIndex]
  | .programAck _ => [keyProgramHash]
  | .appData _ => [keyBlob]
  | .diagRequest _ => [diagKeyDiagnosticType]

/-- The fields are in the ranges of their types, and the version is one that the decoder takes. -/
def NodeMessage.Valid : NodeMessage → Prop
  | .wake firmwareAbiVersion programHash batteryMv firmwareVersion blob =>
    firmwareAbiVersion < 2 ^ 32 ∧ batteryMv < 2 ^ 32 ∧ programHash.length < 2 ^ 64 ∧
      firmwareVersion.length ≤ maxStringFieldLen ∧ Cbor.isAscii firmwareVersion = true ∧
      ∀ data ∈ blob, data.length < 2 ^ 64
  | .getChunk chunkIndex => chunkIndex < 2 ^ 32
  | .programAck programHash => programHash.length < 2 ^ 64
  | .appData blob => blob.length < 2 ^ 64
  | .diagRequest diagnosticType => diagnosticType < 2 ^ 8

theorem fits_field (small : key < 2 ^ 64) (fits : v.Fits) : (key, v).1 < 2 ^ 64 ∧ (key, v).2.Fits := ⟨small, fits⟩

theorem fieldsFit_single (small : key < 2 ^ 64) (fits : v.Fits) : FieldsFit [(key, v)] :=
  ⟨show 1 < 2 ^ 64 by decide, forall_mem_singleton.mpr ⟨small, fits⟩⟩

theorem NodeMessage.fieldsFit {message : NodeMessage} (valid : message.Valid) : FieldsFit message.pairs := by
  cases message with
  | wake firmwareAbiVersion programHash batteryMv firmwareVersion blob =>
    obtain ⟨abi, battery, hash, version, ascii, short⟩ := valid
    refine ⟨by cases blob <;> simp [NodeMessage.pairs], fun field member => ?_⟩
    simp only [NodeMessage.pairs, mem_append, mem_map, Option.mem_toList, mem_cons, not_mem_nil, or_false] at member
    rcases member with ((rfl | rfl | rfl) | ⟨data, present, rfl⟩) | rfl
    · exact fits_field (by decide) (abi.trans (by decide))
    · exact fits_field (by decide) hash
    · exact fits_field (by decide) (battery.trans (by decide))
    · exact fits_field (by decide) (short data present)
    · exact fits_field (by decide) ⟨version.trans_lt (by decide), Cbor.isUtf8_of_isAscii ascii⟩
  | getChunk | diagRequest => exact fieldsFit_single (by decide) (Nat.lt_trans valid (by decide))
  | programAck | appData => exact fieldsFit_single (by decide) valid

theorem getBytesOptional_found {data : Option Bytes} (found : findField fields key = data.map .bytes) :
    getBytesOptional fields key = .ok data := by
  unfold getBytesOptional
  rw [found]
  cases data <;> rfl

theorem NodeMessage.decode_agrees {reader : Cbor.Reader} {cbor : Bytes} {message : NodeMessage} (valid : message.Valid)
    (decoded : cborDecodeMap reader cbor = .ok fields) (agrees : Agrees message.keys fields message.pairs) :
    NodeMessage.decode reader message.msgType cbor = .ok message := by
  refine bind_eq_ok.mpr ⟨_, decoded, ?_⟩
  cases message with
  | wake firmwareAbiVersion programHash batteryMv firmwareVersion blob =>
    obtain ⟨abi, battery, -, version, ascii, -⟩ := valid
    have text : ((asText (.text firmwareVersion)).filter fun s => s.length ≤ maxStringFieldLen && Cbor.isAscii s) =
        some firmwareVersion := by
      simp [asText, version, ascii]
    have isVersion : findField fields keyFirmwareVersion = some (.text firmwareVersion) :=
      (agrees _ (by simp [keys])).trans (by cases blob <;> rfl)
    have isBlob : findField fields keyBlob = blob.map .bytes := (agrees _ (by simp [keys])).trans (by cases blob <;> rfl)
    exact fieldAs_found (agrees _ (by simp [keys])) (asU64_filter abi (by decide)) <|
      fieldAs_found (agrees _ (by simp [keys])) rfl <|
      fieldAs_found (agrees _ (by simp [keys])) (asU64_filter battery (by decide)) <|
      fieldAs_found isVersion text <| bind_eq_ok.mpr ⟨_, getBytesOptional_found isBlob, rfl⟩
  | getChunk | diagRequest => exact fieldAs_found (agrees _ (by simp [keys])) (asU64_filter valid (by decide)) rfl
  | programAck | appData => exact fieldAs_found (agrees _ (by simp [keys])) rfl rfl

theorem NodeMessage.decode_encode (reader : Cbor.Reader) {message : NodeMessage} (valid : message.Valid) :
    NodeMessage.decode reader message.msgType message.encode = .ok message :=
  decode_agrees valid (cborDecodeMap_encode reader (fieldsFit valid)) fun _ _ => rfl

def CommandPayload.Fits : CommandPayload → Prop
  | .nop | .reboot => True
  | .updateSchedule intervalS => intervalS < 2 ^ 32
  | .updateProgram programHash programSize chunkSize chunkCount
  | .runEphemeral programHash programSize chunkSize chunkCount =>
    programHash.length < 2 ^ 64 ∧ programSize < 2 ^ 32 ∧ chunkSize < 2 ^ 32 ∧ chunkCount < 2 ^ 32

variable {field : Nat × Cbor}

theorem encodeEntries_length (member : field ∈ fields) :
    field.2.encode.length ≤ (Cbor.encodeEntries (fields.map fun (k, v) => (.unsigned k, v))).length := by
  induction fields with
  | nil => cases member
  | cons first rest ih =>
    rw [map_cons, Cbor.encodeEntries, length_append, length_append]
    rcases mem_cons.mp member with rfl | later
    · omega
    · have := ih later
      omega

theorem cborEncodeMap_length (member : field ∈ fields) : field.2.encode.length ≤ (cborEncodeMap fields).length := by
  have inside := encodeEntries_length member
  rw [cborEncodeMap, Cbor.encode, length_append]
  omega

variable (startingSeq timestampMs : BitVec 64)

theorem GatewayMessage.blob_length (blob : Bytes) :
    blob.length ≤ (command startingSeq timestampMs .nop (some blob)).encode.length := by
  have present : (keyBlob, Cbor.bytes blob) ∈ (command startingSeq timestampMs .nop (some blob)).pairs := by
    simp [pairs]
  have inside := cborEncodeMap_length present
  simp only [Cbor.encode, length_append] at inside
  exact (Nat.le_add_left _ _).trans inside

theorem cborEncodeMap_small (small : fields.length < 24 ∧ ∀ field ∈ fields, field.1 < 24) :
    (cborEncodeMap fields).length = 1 + (fields.map fun field => 1 + field.2.encode.length).sum := by
  have entries : (Cbor.encodeEntries (fields.map fun (k, v) => (.unsigned k, v))).length =
      (fields.map fun field => 1 + field.2.encode.length).sum := by
    obtain ⟨-, keys⟩ := small
    induction fields with
    | nil => rfl
    | cons field rest ih =>
      obtain ⟨key, later⟩ := forall_mem_cons.mp keys
      simp only [map_cons, Cbor.encodeEntries, Cbor.encode, length_append, sum_cons, Cbor.head_length_small key, ih later]
      omega
  rw [cborEncodeMap, Cbor.encode, length_append, length_map, Cbor.head_length_small small.1, entries]

variable (payload : CommandPayload)

theorem GatewayMessage.command_length
    (blob : Option Bytes) : (command startingSeq timestampMs payload blob).encode.length ≤ 23 +
      (payload.payloadVal.elim 0 fun v => 1 + v.encode.length) +
      if payload = .nop then blob.elim 0 fun data => 1 + (Cbor.bytes data).encode.length else 0 := by
  have seq := Cbor.head_length_le 0 startingSeq.toNat
  have time := Cbor.head_length_le 0 timestampMs.toNat
  have type : (Cbor.unsigned payload.commandType).encode.length = 1 := by cases payload <;> rfl
  have pairs : (command startingSeq timestampMs payload blob).pairs =
      [(4, .unsigned payload.commandType)] ++ (payload.payloadVal.toList.map fun v => (5, v)) ++
      (if payload = .nop then blob.toList.map fun b => (10, .bytes b) else []) ++
      [(13, .unsigned startingSeq.toNat), (14, .unsigned timestampMs.toNat)] := rfl
  rw [encode, pairs, cborEncodeMap_small (by cases payload <;> cases blob <;> simp [CommandPayload.payloadVal])]
  split
  · cases payload.payloadVal <;> cases blob <;> simp [type] <;> simp [Cbor.encode] <;> omega
  · cases payload.payloadVal <;> simp [type] <;> simp [Cbor.encode] <;> omega

theorem GatewayMessage.schedule_length (intervalS : Nat) (blob : Option Bytes) :
    (command startingSeq timestampMs (.updateSchedule intervalS) blob).encode.length ≤ 35 := by
  have interval := Cbor.head_length_le 0 intervalS
  have inner : (cborEncodeMap [(keyIntervalS, .unsigned intervalS)]).length ≤ 11 := by
    rw [cborEncodeMap_small (by simp [keyIntervalS])]
    simp [Cbor.encode]
    omega
  have whole := command_length startingSeq timestampMs (.updateSchedule intervalS) blob
  exact whole.trans (Nat.add_le_add_left (Nat.add_le_add_left inner 1) 23)

theorem Cbor.fits_entry {levels : Nat} {entries : List (Cbor × Cbor)} (small : key < 2 ^ 64) (fits : v.FitsIn levels)
    (rest : Cbor.FitEntries levels entries) : Cbor.FitEntries levels ((.unsigned key, v) :: entries) :=
  ⟨small, fits, rest⟩

variable {programHash : Bytes} {programSize chunkSize chunkCount : Nat}
  (fits : (CommandPayload.updateProgram programHash programSize chunkSize chunkCount).Fits)

include fits in
theorem programFields_fit :
    (Cbor.map [(.unsigned keyProgramHash, .bytes programHash), (.unsigned keyProgramSize, .unsigned programSize),
      (.unsigned keyChunkSize, .unsigned chunkSize), (.unsigned keyChunkCount, .unsigned chunkCount)]).Fits := by
  obtain ⟨short, size, chunk, count⟩ := fits
  have wide {levels n : Nat} (small : n < 2 ^ 32) : (Cbor.unsigned n).FitsIn levels := Nat.lt_trans small (by decide)
  exact ⟨by decide, show 4 < 2 ^ 64 by decide, Cbor.fits_entry (by decide) short (Cbor.fits_entry (by decide) (wide size)
    (Cbor.fits_entry (by decide) (wide chunk) (Cbor.fits_entry (by decide) (wide count) trivial)))⟩

variable {payload : CommandPayload}

theorem CommandPayload.payloadVal_fits (fits : payload.Fits) (present : payload.payloadVal = some v) : v.Fits := by
  cases payload with
  | nop => cases present
  | reboot => cases present
  | updateSchedule intervalS =>
    cases present
    exact ⟨by decide, show 1 < 2 ^ 64 by decide, Cbor.fits_entry (by decide) (Nat.lt_trans fits (by decide)) trivial⟩
  | updateProgram programHash programSize chunkSize chunkCount =>
    cases present
    exact programFields_fit fits
  | runEphemeral programHash programSize chunkSize chunkCount =>
    cases present
    exact programFields_fit fits

theorem CommandPayload.commandType_lt : payload.commandType < 5 := by
  cases payload <;> simp [commandType, cmdNop, cmdUpdateProgram, cmdRunEphemeral, cmdUpdateSchedule, cmdReboot]

def GatewayMessage.keys : GatewayMessage → List Nat
  | .command .. => [keyCommandType, keyPayload, keyBlob, keyStartingSeq, keyTimestampMs]
  | .chunk .. => [keyChunkIndex, keyChunkData]
  | .appDataReply _ => [keyBlob]
  | .diagReply .. => [diagKeyDiagnosticType, diagKeyRssiDbm]

/-- The fields are in the ranges of their types, and only a NOP carries a blob. -/
def GatewayMessage.Valid : GatewayMessage → Prop
  | .command _ _ payload blob => payload.Fits ∧ ∀ data ∈ blob, payload = .nop ∧ data.length < 2 ^ 64
  | .chunk chunkIndex chunkData => chunkIndex < 2 ^ 32 ∧ chunkData.length < 2 ^ 64
  | .appDataReply blob => blob.length < 2 ^ 64
  | .diagReply diagnosticType _ => diagnosticType < 2 ^ 8

theorem asInteger_intVal (i : Int) : asInteger (intVal i) = some i := by
  unfold intVal
  split
  · rename_i nonneg
    exact congrArg some (Int.toNat_of_nonneg nonneg)
  · exact congrArg some (show -1 - ((-1 - i).toNat : Int) = i by omega)

theorem intVal_fits {i : Int} (low : -2 ^ 64 ≤ i) (high : i < 2 ^ 64) : (intVal i).Fits := by
  unfold intVal
  split
  · rw [Cbor.Fits, Cbor.FitsIn]
    omega
  · rw [Cbor.Fits, Cbor.FitsIn]
    omega

theorem asI8_intVal (rssi : BitVec 8) : asI8 (intVal rssi.toInt) = some rssi := by
  have low := rssi.le_toInt
  have high := rssi.toInt_lt
  unfold asI8
  rw [asInteger_intVal]
  exact (if_pos ⟨by omega, by omega⟩).trans (congrArg some BitVec.ofInt_toInt)

theorem GatewayMessage.fieldsFit {message : GatewayMessage} (valid : message.Valid) : FieldsFit message.pairs := by
  cases message with
  | command startingSeq timestampMs payload blob =>
    obtain ⟨fits, short⟩ := valid
    refine ⟨by cases payload <;> cases blob <;> simp [pairs, CommandPayload.payloadVal], fun field member => ?_⟩
    simp only [pairs, mem_append, mem_map, Option.mem_toList, mem_cons, not_mem_nil, or_false] at member
    rcases member with ((rfl | ⟨v, present, rfl⟩) | blobField) | rfl | rfl
    · exact fits_field (by decide) (payload.commandType_lt.trans (by decide))
    · exact fits_field (by decide) (payload.payloadVal_fits fits present)
    · split at blobField
      · obtain ⟨data, present, rfl⟩ := mem_map.mp blobField
        exact fits_field (by decide) (short data (Option.mem_toList.mp present)).2
      · cases blobField
    · exact fits_field (by decide) startingSeq.isLt
    · exact fits_field (by decide) timestampMs.isLt
  | chunk chunkIndex chunkData =>
    refine ⟨show 2 < 2 ^ 64 by decide, forall_mem_cons.mpr ⟨fits_field (by decide) ?_,
      forall_mem_singleton.mpr (fits_field (by decide) valid.2)⟩⟩
    exact Nat.lt_trans valid.1 (by decide)
  | appDataReply blob => exact fieldsFit_single (by decide) valid
  | diagReply diagnosticType rssiDbm =>
    have low := rssiDbm.le_toInt
    have high := rssiDbm.toInt_lt
    refine ⟨show 2 < 2 ^ 64 by decide, forall_mem_cons.mpr ⟨fits_field (by decide) ?_,
      forall_mem_singleton.mpr (fits_field (by decide) (intVal_fits (by omega) (by omega)))⟩⟩
    exact Nat.lt_trans valid (by decide)

def nestedField (entry : Cbor × Cbor) : Option (Nat × Cbor) := (asU64 entry.1).map (·, entry.2)

variable {inner : Fields}

theorem nestedFields_unsigned (small : ∀ field ∈ inner, field.1 < 2 ^ 64) :
    (inner.map fun field => ((Cbor.unsigned field.1, field.2) : Cbor × Cbor)).filterMap nestedField = inner := by
  induction inner with
  | nil => rfl
  | cons field rest ih =>
    have head : nestedField (.unsigned field.1, field.2) = some field := by
      rw [nestedField, asU64_unsigned (small field mem_cons_self), Option.map_some]
    have tail := ih fun f member => small f (mem_cons_of_mem _ member)
    rw [map_cons, filterMap_cons_some head, tail]

theorem decodeNestedMap_found (found : findField fields key = some (.map (inner.map fun field => (.unsigned field.1, field.2))))
    (small : ∀ field ∈ inner, field.1 < 2 ^ 64) : decodeNestedMap fields key = .ok inner := by
  refine bind_eq_ok.mpr ⟨_, by rw [getField, found], ?_⟩
  exact congrArg Except.ok (nestedFields_unsigned small)

include fits in
theorem programPayload_decode {commandType : Nat}
    (found : findField fields keyPayload =
      (CommandPayload.updateProgram programHash programSize chunkSize chunkCount).payloadVal)
    (brings : commandType = cmdUpdateProgram ∨ commandType = cmdRunEphemeral) :
    CommandPayload.decode fields commandType = .ok (if commandType = cmdUpdateProgram
      then .updateProgram programHash programSize chunkSize chunkCount
      else .runEphemeral programHash programSize chunkSize chunkCount) := by
  obtain ⟨-, size, chunk, count⟩ := fits
  have inner : decodeNestedMap fields keyPayload = .ok [(keyProgramHash, .bytes programHash),
      (keyProgramSize, .unsigned programSize), (keyChunkSize, .unsigned chunkSize),
      (keyChunkCount, .unsigned chunkCount)] :=
    decodeNestedMap_found found (by simp [keyProgramHash, keyProgramSize, keyChunkSize, keyChunkCount])
  have notNop : commandType ≠ cmdNop := by rcases brings with rfl | rfl <;> decide
  have notReboot : commandType ≠ cmdReboot := by rcases brings with rfl | rfl <;> decide
  unfold CommandPayload.decode
  rw [if_neg notNop, if_neg notReboot, if_pos brings]
  refine bind_eq_ok.mpr ⟨_, inner, fieldAs_found rfl rfl <| fieldAs_found rfl (asU64_filter size (by decide)) <|
    fieldAs_found rfl (asU64_filter chunk (by decide)) <| fieldAs_found rfl (asU64_filter count (by decide)) ?_⟩
  split
  · rfl
  · rfl

theorem CommandPayload.decode_found (fits : payload.Fits) (found : findField fields keyPayload = payload.payloadVal) :
    CommandPayload.decode fields payload.commandType = .ok payload := by
  cases payload with
  | nop => rfl
  | reboot => rfl
  | updateSchedule intervalS =>
    have inner : decodeNestedMap fields keyPayload = .ok [(keyIntervalS, .unsigned intervalS)] :=
      decodeNestedMap_found found (by simp [keyIntervalS])
    exact bind_eq_ok.mpr ⟨_, inner, fieldAs_found rfl (asU64_filter fits (by decide)) rfl⟩
  | updateProgram programHash programSize chunkSize chunkCount => exact programPayload_decode fits found (.inl rfl)
  | runEphemeral programHash programSize chunkSize chunkCount => exact programPayload_decode fits found (.inr rfl)

variable {reader : Cbor.Reader} {cbor : Bytes} {startingSeq timestampMs : BitVec 64} {blob : Option Bytes}

theorem GatewayMessage.decode_agrees {message : GatewayMessage} (valid : message.Valid)
    (decoded : cborDecodeMap reader cbor = .ok fields) (agrees : Agrees message.keys fields message.pairs) :
    decode reader message.msgType cbor = .ok message := by
  refine bind_eq_ok.mpr ⟨_, decoded, ?_⟩
  cases message with
  | command startingSeq timestampMs payload blob =>
    obtain ⟨fits, onNop⟩ := valid
    have seq : findField fields keyStartingSeq = some (.unsigned startingSeq.toNat) :=
      (agrees _ (by simp [keys])).trans (by cases payload <;> cases blob <;> rfl)
    have time : findField fields keyTimestampMs = some (.unsigned timestampMs.toNat) :=
      (agrees _ (by simp [keys])).trans (by cases payload <;> cases blob <;> rfl)
    have inner : findField fields keyPayload = payload.payloadVal :=
      (agrees _ (by simp [keys])).trans (by cases payload <;> cases blob <;> rfl)
    refine fieldAs_found (agrees _ (by simp [keys])) (asU64_filter (payload.commandType_lt.trans (by decide)) (by decide)) <|
      fieldAs_found seq (asU64_unsigned startingSeq.isLt) <| fieldAs_found time (asU64_unsigned timestampMs.isLt) <|
      bind_eq_ok.mpr ⟨_, CommandPayload.decode_found fits inner, ?_⟩
    rw [BitVec.ofNat_toNat, BitVec.ofNat_toNat, BitVec.setWidth_eq, BitVec.setWidth_eq]
    cases payload with
    | nop =>
      have carried : findField fields keyBlob = blob.map .bytes := (agrees _ (by simp [keys])).trans (by cases blob <;> rfl)
      exact bind_eq_ok.mpr ⟨_, getBytesOptional_found carried, rfl⟩
    | _ =>
      cases blob with
      | none => rfl
      | some data => cases (onNop data rfl).1
  | chunk chunkIndex chunkData =>
    exact fieldAs_found (agrees _ (by simp [keys])) (asU64_filter valid.1 (by decide)) <| fieldAs_found (agrees _ (by simp [keys])) rfl rfl
  | appDataReply blob => exact fieldAs_found (agrees _ (by simp [keys])) rfl rfl
  | diagReply diagnosticType rssiDbm =>
    exact fieldAs_found (agrees _ (by simp [keys])) (asU64_filter valid (by decide)) <| fieldAs_found (agrees _ (by simp [keys])) (asI8_intVal rssiDbm) rfl

theorem GatewayMessage.decode_encode (reader : Cbor.Reader) {message : GatewayMessage} (valid : message.Valid) :
    decode reader message.msgType message.encode = .ok message :=
  decode_agrees valid (cborDecodeMap_encode reader (fieldsFit valid)) fun _ _ => rfl

theorem GatewayMessage.decode_command (reader : Cbor.Reader) (fits : payload.Fits)
    (short : payload = .nop → ∀ data, blob = some data → data.length < 2 ^ 64) :
    decode reader msgCommand (command startingSeq timestampMs payload blob).encode =
      .ok (.command startingSeq timestampMs payload (if payload = .nop then blob else none)) := by
  have same : (command startingSeq timestampMs payload blob).encode =
      (command startingSeq timestampMs payload (if payload = .nop then blob else none)).encode := by
    cases payload <;> rfl
  rw [same]
  refine decode_encode reader ⟨fits, fun data here => ?_⟩
  split at here
  · rename_i nop
    exact ⟨nop, short nop data here⟩
  · cases here

/-! ### Messages with further keys -/

variable {keys : List Nat} {pairs : Fields} {entries : List (Int × Cbor)}

def encodeEntries (entries : List (Int × Cbor)) : Bytes := (Cbor.map (entries.map fun (k, v) => (intVal k, v))).encode

def EntriesFit (entries : List (Int × Cbor)) : Prop :=
  entries.length < 2 ^ 64 ∧ ∀ entry ∈ entries, -2 ^ 64 ≤ entry.1 ∧ entry.1 < 2 ^ 64 ∧ entry.2.Fits

variable (keys pairs entries) in
/-- The entries are the pairs, in their order, with others anywhere between them under none of the keys. -/
def Inserts : Prop := entries.filter (fun entry => entry.1 ∈ keys.map Int.ofNat) = pairs.map fun (k, v) => (Int.ofNat k, v)

theorem collectFields_entries (fit : ∀ entry ∈ entries, entry.1 < 2 ^ 64) :
    collectFields (entries.map fun (k, v) => (intVal k, v)) = if ∀ entry ∈ entries, 0 ≤ entry.1
      then .ok (entries.map fun (k, v) => (k.toNat, v)) else .error (.cborError "negative CBOR key") := by
  induction entries with
  | nil => rfl
  | cons entry rest ih =>
    have high := fit entry mem_cons_self
    have tail := ih fun e member => fit e (mem_cons_of_mem _ member)
    simp only [map_cons, collectFields, asInteger_intVal, asU64_of_integer (asInteger_intVal _), tail, forall_mem_cons]
    by_cases nonneg : 0 ≤ entry.1
    · rw [if_pos ⟨nonneg, high⟩]
      by_cases others : ∀ e ∈ rest, 0 ≤ e.1
      · rw [if_pos others, if_pos ⟨nonneg, others⟩]
        rfl
      · rw [if_neg others, if_neg (mt And.right others)]
        rfl
    · have below : ¬(0 ≤ entry.1 ∧ entry.1 < 2 ^ 64) := mt And.left nonneg
      rw [if_neg below, if_neg (mt And.left nonneg)]

theorem cborDecodeMap_entries (reader : Cbor.Reader) (fit : EntriesFit entries) :
    cborDecodeMap reader (encodeEntries entries) = if ∀ entry ∈ entries, 0 ≤ entry.1
      then .ok (entries.map fun (k, v) => (k.toNat, v)) else .error (.cborError "negative CBOR key") := by
  obtain ⟨count, each⟩ := fit
  have fits : (Cbor.map (entries.map fun (k, v) => (intVal k, v))).FitsIn Cbor.recursionLimit := ⟨by decide, by simpa using count,
    fitEntries_of_forall (forall_mem_map.mpr fun entry member =>
      ⟨intVal_fits (each entry member).1 (each entry member).2.1, (each entry member).2.2⟩)⟩
  simp only [cborDecodeMap, encodeEntries, reader.fromReader_encode _ fits]
  exact collectFields_entries fun entry member => (each entry member).2.1

theorem findField_cast (fields : Fields) (key : Nat) : findField fields key =
    ((fields.map fun (k, v) => (Int.ofNat k, v)).find? (·.1 = Int.ofNat key)).map (·.2) := by
  simp [findField, find?_map, Function.comp_def]

theorem Inserts.agrees (inserts : Inserts keys pairs entries) (nonneg : ∀ entry ∈ entries, 0 ≤ entry.1) :
    Agrees keys (entries.map fun (k, v) => (k.toNat, v)) pairs := by
  intro key read
  have back : (entries.map fun (k, v) => (k.toNat, v)).map (fun (k, v) => (Int.ofNat k, v)) = entries := by
    rw [map_map]
    refine (map_congr_left fun entry member => ?_).trans (map_id entries)
    exact Prod.ext (Int.toNat_of_nonneg (nonneg entry member)) rfl
  rw [findField_cast, findField_cast, back, ← inserts, find?_filter]
  congr 2
  funext entry
  rw [Bool.eq_iff_iff]
  simp only [decide_eq_true_eq]
  refine ⟨fun here => ⟨?_, here⟩, And.right⟩
  rw [here]
  exact mem_map_of_mem read

theorem radio_codec (reader : Cbor.Reader) : (∀ message : NodeMessage, message.Valid →
      NodeMessage.decode reader message.msgType message.encode = .ok message ∧
      ∀ entries, Inserts message.keys message.pairs entries → EntriesFit entries →
        (NodeMessage.decode reader message.msgType (encodeEntries entries) = .ok message ↔ ∀ entry ∈ entries, 0 ≤ entry.1)) ∧
    (∀ message : GatewayMessage, message.Valid →
      GatewayMessage.decode reader message.msgType message.encode = .ok message ∧
      ∀ entries, Inserts message.keys message.pairs entries → EntriesFit entries →
        (GatewayMessage.decode reader message.msgType (encodeEntries entries) = .ok message ↔
          ∀ entry ∈ entries, 0 ≤ entry.1)) := by
  have nonneg {entries : List (Int × Cbor)} {fields : Fields} (fit : EntriesFit entries)
      (decoded : cborDecodeMap reader (encodeEntries entries) = .ok fields) : ∀ entry ∈ entries, 0 ≤ entry.1 := by
    rw [cborDecodeMap_entries reader fit] at decoded
    split at decoded
    · assumption
    · cases decoded
  have reads {entries : List (Int × Cbor)} (fit : EntriesFit entries) (keys : ∀ entry ∈ entries, 0 ≤ entry.1) :
      cborDecodeMap reader (encodeEntries entries) = .ok (entries.map fun (k, v) => (k.toNat, v)) :=
    (cborDecodeMap_entries reader fit).trans (if_pos keys)
  constructor
  · refine fun message valid => ⟨NodeMessage.decode_encode reader valid, fun entries inserts fit => ⟨fun decoded => ?_, fun keys => ?_⟩⟩
    · obtain ⟨fields, read, -⟩ := bind_eq_ok.mp decoded
      exact nonneg fit read
    · exact NodeMessage.decode_agrees valid (reads fit keys) (inserts.agrees keys)
  · refine fun message valid => ⟨decode_encode reader valid, fun entries inserts fit => ⟨fun decoded => ?_, fun keys => ?_⟩⟩
    · obtain ⟨fields, read, -⟩ := bind_eq_ok.mp decoded
      exact nonneg fit read
    · exact decode_agrees valid (reads fit keys) (inserts.agrees keys)

theorem radio_codec_extra_key :
    NodeMessage.decode .definite msgGetChunk (NodeMessage.getChunk 0).encode = .ok (.getChunk 0) ∧
      NodeMessage.decode .definite msgGetChunk (encodeEntries [(11, .unsigned 0), (99, .null)]) = .ok (.getChunk 0) := by
  obtain ⟨same, further⟩ := (radio_codec .definite).1 (.getChunk 0) (show 0 < 2 ^ 32 by decide)
  refine ⟨same, (further [(11, .unsigned 0), (99, .null)] rfl ⟨by decide, ?_⟩).mpr (by decide)⟩
  rintro entry (- | ⟨_, - | ⟨_, ⟨⟩⟩⟩)
  · exact ⟨by decide, by decide, show 0 < 2 ^ 64 by decide⟩
  · exact ⟨by decide, by decide, trivial⟩

theorem radio_codec_negative_key :
    Inserts (NodeMessage.getChunk 0).keys (NodeMessage.getChunk 0).pairs [(11, .unsigned 0), (-1, .null)] ∧
      NodeMessage.decode .definite msgGetChunk (encodeEntries [(11, .unsigned 0), (-1, .null)]) =
        .error (.cborError "negative CBOR key") :=
  ⟨rfl, by decide +kernel⟩

theorem GatewayMessage.encode_command_head
    (blob : Option Bytes) : (command startingSeq timestampMs payload blob).encode.take 3 =
      [BitVec.ofNat 8 (160 + (command startingSeq timestampMs payload blob).pairs.length),
        BitVec.ofNat 8 keyCommandType, BitVec.ofNat 8 payload.commandType] := by
  cases payload <;> cases blob <;> rfl

theorem GatewayMessage.encode_plain_nop {startingSeq timestampMs startingSeq' timestampMs' : BitVec 64}
    (same : (command startingSeq timestampMs payload blob).encode =
      (command startingSeq' timestampMs' .nop none).encode) : payload = .nop ∧ blob = none := by
  have head := congrArg (take 3) same
  rw [encode_command_head, encode_command_head] at head
  simp only [cons.injEq] at head
  obtain ⟨count, -, type, -⟩ := head
  have nop : payload = .nop := by
    cases payload with
    | nop => rfl
    | _ => cases type
  subst nop
  cases blob with
  | none => exact ⟨rfl, rfl⟩
  | some data => cases count
end Sonde.Protocol
