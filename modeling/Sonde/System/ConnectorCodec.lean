import Sonde.Azure.Codec
import Sonde.Gateway.Connector

/-!
# The two ends of the connector

The gateway and the cloud handler each have their own codec for the messages between them.
-/

namespace Sonde.System
open Lib Protocol Gateway Engine Cbor NodeMessage List Option

variable {fields : Fields}

theorem plainEntries_fields {levels : Nat} (plain : ∀ field ∈ fields, field.1 < 2 ^ 64 ∧ field.2.PlainIn levels) :
    PlainEntries levels (fields.map fun (k, v) => (.unsigned k, v)) := by
  induction fields with
  | nil => trivial
  | cons field fields ih =>
    have first := plain field mem_cons_self
    exact ⟨first.1, first.2, ih fun other member => plain other (mem_cons_of_mem field member)⟩

theorem fromReader_fields (reader : Reader)
    (plain : ∀ field ∈ fields, field.1 < 2 ^ 64 ∧ field.2.Plain) (short : (cborEncodeMap fields).length < 2 ^ 64) :
    reader.fromReader (cborEncodeMap fields) = .ok (.map (fields.map fun (k, v) => (.unsigned k, v))) :=
  reader.fromReader_encode _ (fits_of_plain (.map _) _ ⟨by decide, plainEntries_fields plain⟩ short)

theorem mapGet_fields (small : ∀ field ∈ fields, field.1 < 2 ^ 64) (key : Nat) :
    Azure.mapGet (fields.map fun (k, v) => (.unsigned k, v)) key = findField fields key := by
  induction fields with
  | nil => rfl
  | cons field fields ih =>
    have rest := ih fun other member => small other (mem_cons_of_mem field member)
    have own := asU64_unsigned (small field mem_cons_self)
    unfold Azure.mapGet findField at rest ⊢
    by_cases same : field.1 = key
    · rw [map_cons, find?_cons_of_pos (by exact decide_eq_true (own.trans (congrArg some same))),
        find?_cons_of_pos (by exact decide_eq_true same)]
      rfl
    · rw [map_cons, find?_cons_of_neg (by simpa only [own, some.injEq, decide_eq_true_eq] using same),
        find?_cons_of_neg (by simpa only [decide_eq_true_eq] using same), rest]

/-! ## Fields that the gateway writes -/

variable {expectedLen : Nat} {value : Option Bytes} {α : Type} {view : Cbor → Option α}

section
variable {map : Azure.CborMap} {key : Nat} {field : String} {kind : String}

theorem required_found {v : Cbor} {a : α} (found : Azure.mapGet map key = some v) (viewed : view v = some a) :
    Azure.required map key field view kind = .ok a := by
  unfold Azure.required
  rw [found]
  dsimp only
  rw [viewed]

theorem optional_absent (absent : Azure.mapGet map key = none) : Azure.optional map key field view kind = .ok none := by
  unfold Azure.optional
  rw [absent]

theorem optional_found {write : α → Cbor} {value : Option α}
    (found : Azure.mapGet map key = some ((value.map write).getD .null)) (present : ∀ a, write a ≠ .null)
    (viewed : ∀ a ∈ value, view (write a) = some a) : Azure.optional map key field view kind = .ok value := by
  unfold Azure.optional
  rw [found]
  cases value with
  | none => rfl
  | some a =>
    have written := viewed a rfl
    have other := present a
    dsimp only [Option.map, Option.getD]
    split
    · rename_i same
      exact absurd (some.inj same) other
    · rename_i same
      cases same
    · rename_i v _ _ same
      rw [← some.inj same, written]

theorem optBytesValue_eq (value : Option Bytes) : optBytesValue value = (value.map bytes).getD .null := by
  cases value <;> rfl

theorem optTextValue_eq (value : Option Bytes) : optTextValue value = (value.map text).getD .null := by
  cases value <;> rfl

theorem optU32Value_eq (value : Option Nat) : optU32Value value = (value.map unsigned).getD .null := by
  cases value <;> rfl

variable (found : Azure.mapGet map key = some (optBytesValue value))

include found in
theorem optionalBytesField_found : Azure.optionalBytesField map key field = .ok (value.filter (· ≠ [])) := by
  rw [optBytesValue_eq] at found
  unfold Azure.optionalBytesField
  rw [optional_found found (fun _ same => by cases same) fun _ _ => rfl]
  rfl

theorem optionalNat_found {bound : Nat} {value : Option Nat} (small : bound ≤ 2 ^ 64)
    (found : Azure.mapGet map key = some (optU32Value value)) (fits : ∀ n ∈ value, n < bound) :
    Azure.optional map key field (asNatBelow bound) kind = .ok value := by
  rw [optU32Value_eq] at found
  exact optional_found found (fun _ same => by cases same) fun n member => asU64_filter (fits n member) small

theorem optionalTextField_found (found : Azure.mapGet map key = some (optTextValue value)) :
    Azure.optionalTextField map key field = .ok value := by
  rw [optTextValue_eq] at found
  exact optional_found found (fun _ same => by cases same) fun _ _ => rfl

theorem optionalFixedBytesField_absent (absent : Azure.mapGet map key = none) (expectedLen : Nat) :
    Azure.optionalFixedBytesField map key field expectedLen = .ok none := by
  unfold Azure.optionalFixedBytesField Azure.optionalBytesField
  rw [optional_absent absent]
  rfl

theorem optionalArray_absent (absent : Azure.mapGet map key = none) :
    Azure.optionalArray map key field view kind = .ok none := by
  unfold Azure.optionalArray
  rw [absent]

def Sized (expectedLen : Nat) (value : Option Bytes) : Prop := ∀ bytes ∈ value, bytes = [] ∨ bytes.length = expectedLen

include found in
theorem optionalFixedBytesField_found (sized : Sized expectedLen value) :
    Azure.optionalFixedBytesField map key field expectedLen = .ok (value.filter (· ≠ [])) := by
  unfold Azure.optionalFixedBytesField
  rw [optionalBytesField_found found]
  cases kept : value.filter (· ≠ []) with
  | none => rfl
  | some bytes =>
    obtain ⟨member, nonempty⟩ := filter_eq_some_iff.mp kept
    have length := (sized bytes member).resolve_left (by simpa only [decide_eq_true_eq] using nonempty)
    simp only [bind, Except.bind, Azure.validateBytesLength, if_pos length]

include found in
theorem sized_of_optionalFixedBytesField {result : Option Bytes}
    (ok : Azure.optionalFixedBytesField map key field expectedLen = .ok result) : Sized expectedLen value := by
  rintro bytes member
  subst member
  by_cases empty : bytes = []
  · exact .inl empty
  · unfold Azure.optionalFixedBytesField at ok
    rw [optionalBytesField_found found, filter_some_pos (by simpa only [decide_eq_true_eq] using empty)] at ok
    obtain ⟨_, checked, -⟩ := bind_eq_ok.mp
      (show (Azure.validateBytesLength field bytes expectedLen >>= fun _ => .ok (some bytes)) = .ok result from ok)
    unfold Azure.validateBytesLength at checked
    dsimp only at checked
    split at checked
    · rename_i length
      exact .inr length
    · cases checked

end

theorem intVal_ne_null (i : Int) : intVal i ≠ .null := by
  unfold intVal
  split <;> nofun

theorem intVal_plain {levels : Nat} {i : Int} (low : -2 ^ 63 ≤ i) (high : i < 2 ^ 63) : (intVal i).PlainIn levels := by
  unfold intVal
  split
  · rw [PlainIn]
    omega
  · rw [PlainIn]
    omega

theorem asI64_intVal {i : Int} (low : -2 ^ 63 ≤ i) (high : i < 2 ^ 63) : Azure.asI64 (intVal i) = some i := by
  unfold Azure.asI64
  rw [asInteger_intVal, filter_some_pos (by exact decide_eq_true ⟨low, high⟩)]

theorem insertReading_last {readings : List (Bytes × Int)} {name : Bytes} (below : ∀ entry ∈ readings, entry.1 < name)
    (value : Int) : Azure.insertReading readings name value = readings ++ [(name, value)] := by
  unfold Azure.insertReading
  rw [filter_eq_self.mpr fun entry member => decide_eq_true (below entry member),
    filter_eq_nil_iff.mpr fun entry member => by
      simpa only [decide_eq_true_eq] using List.lt_asymm (below entry member)]

theorem collectReadings_sorted {done rest : List (Bytes × Int)} (sorted : (done ++ rest).Pairwise fun a b => a.1 < b.1)
    (range : ∀ entry ∈ rest, -2 ^ 63 ≤ entry.2 ∧ entry.2 < 2 ^ 63) :
    Azure.collectReadings done (rest.map fun entry => (.text entry.1, intVal entry.2)) = .ok (done ++ rest) := by
  induction rest generalizing done with
  | nil =>
    rw [append_nil]
    rfl
  | cons entry rest ih =>
    have fits := range entry mem_cons_self
    have below : ∀ earlier ∈ done, earlier.1 < entry.1 := fun earlier member =>
      (pairwise_append.mp sorted).2.2 earlier member entry mem_cons_self
    have next := ih (append_cons done entry rest ▸ sorted) fun other member => range other (mem_cons_of_mem entry member)
    rw [map_cons, Azure.collectReadings]
    simp only [asText, asI64_intVal fits.1 fits.2, insertReading_last below]
    rw [next, append_assoc]
    rfl

theorem readings_plain (readings : ReadingMap) : readings.value.Plain := by
  obtain ⟨entries, sorted, utf8, range⟩ := readings
  refine ⟨by decide, show PlainEntries 254 (entries.map fun entry => (.text entry.1, intVal entry.2)) from ?_⟩
  clear sorted
  induction entries with
  | nil => trivial
  | cons entry entries ih =>
    obtain ⟨low, high⟩ := range entry mem_cons_self
    exact ⟨utf8 entry mem_cons_self, intVal_plain low high,
      ih (fun other member => utf8 other (mem_cons_of_mem entry member))
        fun other member => range other (mem_cons_of_mem entry member)⟩

/-! ## Messages -/

def receivedActualState (message : ActualState) : Azure.ActualStateMessage where
  entityKind := message.entityKind
  entityId := message.entityId
  currentProgramHash := message.currentProgramHash.filter (· ≠ [])
  assignedProgramHash := message.assignedProgramHash.filter (· ≠ [])
  batteryMv := message.batteryMv
  wakeRssiDbm := message.wakeRssiDbm
  firmwareAbiVersion := message.firmwareAbiVersion
  firmwareVersion := message.firmwareVersion
  timestampMs := message.timestampMs
  scheduleIntervalS := message.scheduleIntervalS
  encryptedPsk := message.encryptedPskEscrow
  escrowKeyHint := message.escrowKeyHint.map (·.toNat)
  nodeMasterKeyId := message.masterKeyId
  channel := none
  gatewayMasterKeyId := none
  masterKeyEpoch := none
  x25519PublicKey := none
  fingerprintWords := none
  missingKeyHints := none
  gatewayVersion := none
  gatewayCommit := none
  modemFirmwareVersion := none
  modemFirmwareCommit := none
  rotationInProgress := none

def receivedAppData (message : AppData) : Azure.AppDataMessage where
  nodeId := message.nodeId
  programHash := message.programHash
  payload := message.payload
  timestampMs := message.timestampMs
  readings := message.readings.map (·.entries)

def received : ConnectorOutboundMessage → Azure.ConnectorMessage
  | .actualState message => .actualState (receivedActualState message)
  | .appData message => .appData (receivedAppData message)

def Agrees (reader : Reader) (message : ConnectorOutboundMessage) : Prop :=
  Azure.decodeConnectorMessage reader message.encode = .ok (received message)

structure Typed (message : ActualState) : Prop where
  kind : isUtf8 message.entityKind = true
  id : isUtf8 message.entityId = true
  version : ∀ version ∈ message.firmwareVersion, isUtf8 version = true
  battery : ∀ n ∈ message.batteryMv, n < 2 ^ 32
  abi : ∀ n ∈ message.firmwareAbiVersion, n < 2 ^ 32
  interval : ∀ n ∈ message.scheduleIntervalS, n < 2 ^ 32
  psk : ∀ blob ∈ message.encryptedPskEscrow, blob.length = 60
  key : ∀ id ∈ message.masterKeyId, id.length = 32

theorem optBytesValue_plain (value : Option Bytes) : (optBytesValue value).Plain := by
  cases value <;> trivial

theorem optTextValue_plain (utf8 : ∀ text ∈ value, isUtf8 text = true) : (optTextValue value).Plain := by
  cases value with
  | none => trivial
  | some text => exact utf8 text rfl

theorem optU32Value_plain {bound : Nat} {value : Option Nat} (small : bound ≤ 2 ^ 64) (fits : ∀ n ∈ value, n < bound) :
    (optU32Value value).Plain := by
  cases value with
  | none => trivial
  | some n => exact (fits n rfl).trans_le small

theorem keyHint_lt (hint : Option (BitVec 16)) : ∀ n ∈ hint.map (·.toNat), n < 2 ^ 16 := by
  intro n member
  obtain ⟨hint, -, rfl⟩ := mem_map.mp member
  exact hint.isLt

theorem Typed.plain {message : ActualState} (typed : Typed message) :
    ∀ field ∈ message.pairs, field.1 < 2 ^ 64 ∧ field.2.Plain := by
  have u32 : 2 ^ 32 ≤ 2 ^ 64 := by decide
  have rssi : ((message.wakeRssiDbm.map fun rssi => intVal rssi.toInt).getD .null).Plain := by
    cases message.wakeRssiDbm with
    | none => trivial
    | some rssi =>
      have low := rssi.le_toInt
      have high := rssi.toInt_lt
      exact intVal_plain (by omega) (by omega)
  simp only [ActualState.pairs, forall_mem_cons, not_mem_nil, false_imp_iff, implies_true, and_true]
  refine ⟨⟨by decide, show 2 < 2 ^ 64 by decide⟩, ⟨by decide, typed.kind⟩, ⟨by decide, typed.id⟩, ⟨by decide, optBytesValue_plain _⟩,
    ⟨by decide, optBytesValue_plain _⟩, ⟨by decide, optU32Value_plain u32 typed.battery⟩,
    ⟨by decide, optU32Value_plain u32 typed.abi⟩, ⟨by decide, optTextValue_plain typed.version⟩,
    ⟨by decide, message.timestampMs.isLt⟩, ⟨by decide, by decide, trivial⟩, ⟨by decide, optU32Value_plain u32 typed.interval⟩,
    ⟨by decide, optBytesValue_plain _⟩, ⟨by decide, optU32Value_plain (by decide) (keyHint_lt _)⟩,
    ⟨by decide, optBytesValue_plain _⟩, ⟨by decide, rssi⟩⟩

theorem decodeMap_pairs (reader : Reader)
    (plain : ∀ field ∈ fields, field.1 < 2 ^ 64 ∧ field.2.Plain) (short : (cborEncodeMap fields).length < 2 ^ 64) :
    Azure.decodeMap reader (cborEncodeMap fields) = .ok (fields.map fun (k, v) => (.unsigned k, v)) := by
  unfold Azure.decodeMap
  rw [fromReader_fields reader plain short]

theorem filter_of_sized (sized : ∀ bytes ∈ value, bytes.length = expectedLen)
    (pos : 0 < expectedLen) : value.filter (· ≠ []) = value := by
  cases value with
  | none => rfl
  | some bytes =>
    refine filter_some_pos (decide_eq_true fun empty => ?_)
    rw [empty] at sized
    exact pos.ne (sized [] rfl)

def Holds (map : Azure.CborMap) (fields : Fields) : Prop := ∀ key, Azure.mapGet map key = findField fields key

variable {message : ActualState} {map : Azure.CborMap}

theorem decodeActualState_holds (typed : Typed message) (holds : Holds map message.pairs)
    (current : Sized 32 message.currentProgramHash) (assigned : Sized 32 message.assignedProgramHash) :
    Azure.decodeActualState map = .ok (receivedActualState message) := by
  have u32 : 2 ^ 32 ≤ 2 ^ 64 := by decide
  have psk : Sized 60 message.encryptedPskEscrow := fun blob member => .inr (typed.psk blob member)
  have key : Sized 32 message.masterKeyId := fun id member => .inr (typed.key id member)
  refine bind_eq_ok.mpr ⟨_, required_found (holds 2) rfl, bind_eq_ok.mpr ⟨_, required_found (holds 3) rfl, ?_⟩⟩
  refine bind_eq_ok.mpr ⟨_, optionalFixedBytesField_found (holds 4) current, ?_⟩
  refine bind_eq_ok.mpr ⟨_, optionalFixedBytesField_found (holds 5) assigned, ?_⟩
  refine bind_eq_ok.mpr ⟨_, optionalNat_found u32 (holds 6) typed.battery, ?_⟩
  refine bind_eq_ok.mpr ⟨_, optional_found (holds 28) (fun rssi => intVal_ne_null _) fun rssi _ => asI8_intVal rssi, ?_⟩
  refine bind_eq_ok.mpr ⟨_, optionalNat_found u32 (holds 7) typed.abi, ?_⟩
  refine bind_eq_ok.mpr ⟨_, optionalTextField_found (holds 8), ?_⟩
  refine bind_eq_ok.mpr ⟨_, required_found (holds 9) (asU64_unsigned message.timestampMs.isLt), ?_⟩
  refine bind_eq_ok.mpr ⟨_, optionalNat_found u32 (holds 11) typed.interval, ?_⟩
  refine bind_eq_ok.mpr ⟨_, optionalFixedBytesField_found (holds 12) psk, ?_⟩
  refine bind_eq_ok.mpr ⟨_, optionalNat_found (by decide) (holds 13) (keyHint_lt _), ?_⟩
  refine bind_eq_ok.mpr ⟨_, optionalFixedBytesField_found (holds 14) key, ?_⟩
  refine bind_eq_ok.mpr ⟨_, optional_absent (holds 15), ?_⟩
  refine bind_eq_ok.mpr ⟨_, optionalFixedBytesField_absent (holds 16) 32, ?_⟩
  refine bind_eq_ok.mpr ⟨_, optional_absent (holds 17), ?_⟩
  refine bind_eq_ok.mpr ⟨_, optionalFixedBytesField_absent (holds 18) 32, ?_⟩
  refine bind_eq_ok.mpr ⟨_, optionalArray_absent (holds 19), bind_eq_ok.mpr ⟨_, optionalArray_absent (holds 20), ?_⟩⟩
  refine bind_eq_ok.mpr ⟨_, optional_absent (holds 23), bind_eq_ok.mpr ⟨_, optional_absent (holds 24), ?_⟩⟩
  refine bind_eq_ok.mpr ⟨_, optional_absent (holds 25), bind_eq_ok.mpr ⟨_, optional_absent (holds 26), ?_⟩⟩
  refine bind_eq_ok.mpr ⟨_, optional_absent (holds 27), ?_⟩
  rw [filter_of_sized typed.psk (by decide), filter_of_sized typed.key (by decide), BitVec.ofNat_toNat, BitVec.setWidth_eq]
  rfl

theorem sized_of_decodeActualState (holds : Holds map message.pairs) {decoded : Azure.ActualStateMessage}
    (ok : Azure.decodeActualState map = .ok decoded) :
    Sized 32 message.currentProgramHash ∧ Sized 32 message.assignedProgramHash := by
  obtain ⟨_, -, ok⟩ := bind_eq_ok.mp ok
  obtain ⟨_, -, ok⟩ := bind_eq_ok.mp ok
  obtain ⟨_, current, ok⟩ := bind_eq_ok.mp ok
  obtain ⟨_, assigned, -⟩ := bind_eq_ok.mp ok
  exact ⟨sized_of_optionalFixedBytesField (holds 4) current, sized_of_optionalFixedBytesField (holds 5) assigned⟩

variable {message : AppData}

theorem validateBytesLength_ok {field : String} {bytes : Bytes} {expected : Nat} {u : Unit} :
    Azure.validateBytesLength field bytes expected = .ok u ↔ bytes.length = expected := by
  unfold Azure.validateBytesLength
  dsimp only
  split
  · rename_i length
    exact iff_of_true rfl length
  · rename_i length
    exact iff_of_false nofun length

theorem decodeOptionalReadings_holds (holds : Holds map message.pairs) :
    Azure.decodeOptionalReadings map 16 = .ok (message.readings.map (·.entries)) := by
  unfold Azure.decodeOptionalReadings
  rw [holds 16]
  unfold AppData.pairs
  cases message.readings with
  | none => rfl
  | some readings =>
    have collected : Azure.collectReadings [] (readings.entries.map fun entry => (.text entry.1, intVal entry.2)) =
        .ok ([] ++ readings.entries) := collectReadings_sorted readings.sorted readings.range
    exact bind_eq_ok.mpr ⟨_, collected, rfl⟩

theorem decodeAppData_holds (holds : Holds map message.pairs) (length : message.programHash.length = 32) :
    Azure.decodeAppData map = .ok (receivedAppData message) := by
  refine bind_eq_ok.mpr ⟨_, required_found (holds 2) rfl, ?_⟩
  have hash : Azure.requiredProgramHash map 3 "program_hash" = .ok message.programHash :=
    bind_eq_ok.mpr ⟨_, required_found (holds 3) rfl, bind_eq_ok.mpr ⟨(), validateBytesLength_ok.mpr length, rfl⟩⟩
  refine bind_eq_ok.mpr ⟨_, hash, bind_eq_ok.mpr ⟨_, required_found (holds 4) rfl, ?_⟩⟩
  refine bind_eq_ok.mpr ⟨_, required_found (holds 5) (asU64_unsigned message.timestampMs.isLt), ?_⟩
  refine bind_eq_ok.mpr ⟨_, decodeOptionalReadings_holds holds, ?_⟩
  rw [BitVec.ofNat_toNat, BitVec.setWidth_eq]
  rfl

theorem length_of_decodeAppData (holds : Holds map message.pairs) {decoded : Azure.AppDataMessage}
    (ok : Azure.decodeAppData map = .ok decoded) : message.programHash.length = 32 := by
  obtain ⟨_, -, ok⟩ := bind_eq_ok.mp ok
  obtain ⟨_, hash, -⟩ := bind_eq_ok.mp ok
  obtain ⟨bytes, found, checked⟩ := bind_eq_ok.mp hash
  obtain ⟨_, checked, -⟩ := bind_eq_ok.mp checked
  have own : Azure.requiredBytes map 3 "program_hash" = .ok message.programHash := required_found (holds 3) rfl
  obtain rfl : message.programHash = bytes := Except.ok.inj (own.symm.trans found)
  exact validateBytesLength_ok.mp checked

theorem checkedEscrow_sized (escrow : EscrowFields) :
    (∀ blob ∈ (checkedEscrow escrow).1, blob.length = 60) ∧ ∀ id ∈ (checkedEscrow escrow).2.2, id.length = 32 := by
  unfold checkedEscrow
  split
  · split
    · exact ⟨nofun, nofun⟩
    · rename_i blob keyHint keyId sizes
      rw [not_or, not_not, not_not] at sizes
      refine ⟨fun other same => ?_, fun other same => ?_⟩
      · cases same
        exact sizes.1
      · cases same
        exact sizes.2
  · exact ⟨nofun, nofun⟩

/-! ## Agreement -/

section
variable (reader : Reader)

theorem decodeConnectorMessage_pairs {msgType : Nat} (plain : ∀ field ∈ fields, field.1 < 2 ^ 64 ∧ field.2.Plain)
    (short : (cborEncodeMap fields).length < 2 ^ 64) (first : findField fields 1 = some (.unsigned msgType))
    (small : msgType < 2 ^ 64) : ∃ map, Holds map fields ∧ Azure.decodeConnectorMessage reader (cborEncodeMap fields) =
      if msgType = Azure.msgTypeActualState then do
        let message ← Azure.decodeActualState map
        .ok (.actualState message)
      else if msgType = Azure.msgTypeAppData then do
        let message ← Azure.decodeAppData map
        .ok (.appData message)
      else .ok (.unsupported msgType) := by
  have holds : Holds (fields.map fun (k, v) => (.unsigned k, v)) fields :=
    mapGet_fields fun field member => (plain field member).1
  refine ⟨_, holds, ?_⟩
  unfold Azure.decodeConnectorMessage
  rw [decodeMap_pairs reader plain short]
  change (Azure.requiredU64 _ 1 "msg_type" >>= _) = _
  rw [show Azure.requiredU64 _ 1 "msg_type" = .ok msgType from
    required_found ((holds 1).trans first) (asU64_unsigned small)]
  rfl

theorem actualState_agrees_iff {message : ActualState} (typed : Typed message)
    (short : (ConnectorOutboundMessage.actualState message).encode.length < 2 ^ 64) :
    Agrees reader (.actualState message) ↔ Sized 32 message.currentProgramHash ∧ Sized 32 message.assignedProgramHash := by
  obtain ⟨map, holds, decoded⟩ := decodeConnectorMessage_pairs reader typed.plain short rfl (by decide)
  unfold Agrees ConnectorOutboundMessage.encode ConnectorOutboundMessage.pairs
  rw [decoded]
  constructor
  · intro ok
    obtain ⟨_, ok, -⟩ := bind_eq_ok.mp ok
    exact sized_of_decodeActualState holds ok
  · rintro ⟨current, assigned⟩
    exact bind_eq_ok.mpr ⟨_, decodeActualState_holds typed holds current assigned, rfl⟩

theorem AppData.plain {message : AppData} (utf8 : isUtf8 message.nodeId = true) :
    ∀ field ∈ message.pairs, field.1 < 2 ^ 64 ∧ field.2.Plain := by
  have origin : isUtf8 message.payloadOrigin.asStr = true := by
    cases message.payloadOrigin <;> decide
  have readings : ∀ field ∈ message.readings.toList.map fun readings => (16, readings.value),
      field.1 < 2 ^ 64 ∧ field.2.Plain := by
    intro field member
    obtain ⟨readings, -, rfl⟩ := mem_map.mp member
    exact ⟨show 16 < 2 ^ 64 by decide, readings_plain readings⟩
  unfold AppData.pairs
  rw [forall_mem_append]
  refine ⟨?_, readings⟩
  simp only [forall_mem_cons, not_mem_nil, false_imp_iff, implies_true, and_true]
  exact ⟨⟨by decide, show 3 < 2 ^ 64 by decide⟩, ⟨by decide, utf8⟩, ⟨by decide, trivial⟩, ⟨by decide, trivial⟩,
    ⟨by decide, message.timestampMs.isLt⟩, ⟨by decide, origin⟩⟩

theorem appData_agrees_iff {message : AppData} (utf8 : isUtf8 message.nodeId = true)
    (short : (ConnectorOutboundMessage.appData message).encode.length < 2 ^ 64) :
    Agrees reader (.appData message) ↔ message.programHash.length = 32 := by
  obtain ⟨map, holds, decoded⟩ := decodeConnectorMessage_pairs reader (AppData.plain utf8) short rfl (by decide)
  unfold Agrees ConnectorOutboundMessage.encode ConnectorOutboundMessage.pairs
  rw [decoded]
  constructor
  · intro ok
    obtain ⟨_, ok, -⟩ := bind_eq_ok.mp ok
    exact length_of_decodeAppData holds ok
  · intro length
    exact bind_eq_ok.mpr ⟨_, decodeAppData_holds holds length, rfl⟩

/-- The program hashes that the messages for a frame carry have a length that the cloud handler takes: that of a SHA-256
hash, or in an ACTUAL_STATE none at all. -/
def HashesFit (node : NodeRecord) : NodeMessage → Prop
  | .wake _ programHash _ _ _ => Sized 32 (some programHash) ∧ Sized 32 node.assignedProgramHash
  | .appData _ => ∀ programHash ∈ node.currentProgramHash, programHash.length = 32
  | _ => True

theorem fieldAs_ok {key : Nat} {a : α} (ok : fieldAs view fields key = .ok a) : ∃ v, view v = some a := by
  obtain ⟨v, -, viewed⟩ := bind_eq_ok.mp ok
  cases found : view v with
  | none =>
    rw [found] at viewed
    cases viewed
  | some b =>
    rw [found] at viewed
    cases viewed
    exact ⟨v, found⟩

theorem decode_wake_fits {radio : Reader} {msgType : BitVec 8} {payload programHash firmwareVersion : Bytes}
    {firmwareAbiVersion batteryMv : Nat} {blob : Option Bytes} (decoded : decode radio msgType payload =
      .ok (.wake firmwareAbiVersion programHash batteryMv firmwareVersion blob)) :
    firmwareAbiVersion < 2 ^ 32 ∧ batteryMv < 2 ^ 32 ∧ isUtf8 firmwareVersion = true := by
  obtain ⟨fields, -, decoded⟩ := bind_eq_ok.mp decoded
  split_ifs at decoded
  · obtain ⟨_, abi, decoded⟩ := bind_eq_ok.mp decoded
    obtain ⟨_, -, decoded⟩ := bind_eq_ok.mp decoded
    obtain ⟨_, battery, decoded⟩ := bind_eq_ok.mp decoded
    obtain ⟨_, version, decoded⟩ := bind_eq_ok.mp decoded
    obtain ⟨_, -, decoded⟩ := bind_eq_ok.mp decoded
    cases decoded
    obtain ⟨_, abi⟩ := fieldAs_ok abi
    obtain ⟨_, battery⟩ := fieldAs_ok battery
    obtain ⟨_, version⟩ := fieldAs_ok version
    have ascii := (filter_eq_some_iff.mp version).2
    rw [Bool.and_eq_true] at ascii
    exact ⟨of_decide_eq_true (filter_eq_some_iff.mp abi).2,
      of_decide_eq_true (filter_eq_some_iff.mp battery).2, isUtf8_of_isAscii ascii.2⟩
  all_goals
    obtain ⟨_, -, decoded⟩ := bind_eq_ok.mp decoded
    cases decoded

variable {node : NodeRecord} {timestampMs : BitVec 64} {escrow : Option NodeEscrowRecord} {rssi : Option (BitVec 8)}
  {readings : Option ReadingMap}

theorem wakeActualState_agrees_iff {wake : WakeFields} (abi : wake.firmwareAbiVersion < 2 ^ 32)
    (battery : wake.batteryMv < 2 ^ 32) (version : isUtf8 wake.firmwareVersion = true)
    (id : isUtf8 (stringBytes node.nodeId) = true) (interval : node.scheduleIntervalS < 2 ^ 32)
    (short : (wakeActualState node wake timestampMs escrow rssi).encode.length < 2 ^ 64) :
    Agrees reader (wakeActualState node wake timestampMs escrow rssi) ↔
      Sized 32 (some wake.programHash) ∧ Sized 32 node.assignedProgramHash := by
  have only : ∀ {n bound : Nat}, n < bound → ∀ m ∈ some n, m < bound := fun below m same => by
    cases same
    exact below
  have kind : isUtf8 (stringBytes "node") = true := by decide
  refine actualState_agrees_iff reader ⟨kind, id, fun text same => ?_, only battery, only abi, only interval,
    (checkedEscrow_sized _).1, (checkedEscrow_sized _).2⟩ short
  cases same
  exact version

theorem connector_codecs_agree_iff {radio : Cbor.Reader} {msgType : BitVec 8} {payload : Bytes} {message : NodeMessage}
    (decoded : NodeMessage.decode radio msgType payload = .ok message)
    (id : Cbor.isUtf8 (stringBytes node.nodeId) = true) (interval : node.scheduleIntervalS < 2 ^ 32)
    (short : ∀ m ∈ frameMessages node message timestampMs escrow rssi readings, m.encode.length < 2 ^ 64) :
    (∀ m ∈ frameMessages node message timestampMs escrow rssi readings, Agrees reader m) ↔ HashesFit node message := by
  cases message with
  | wake firmwareAbiVersion programHash batteryMv firmwareVersion blob =>
    obtain ⟨abi, battery, version⟩ := decode_wake_fits decoded
    unfold frameMessages wakeMessages at short ⊢
    rw [forall_mem_cons] at short ⊢
    rw [wakeActualState_agrees_iff reader abi battery version id interval short.1]
    refine and_iff_left_of_imp fun fits m member => ?_
    have small := short.2 m member
    cases blob with
    | none => cases member
    | some data =>
      dsimp only at member
      split at member
      · cases member
      · rename_i sent
        obtain rfl := mem_singleton.mp member
        have nonempty := (not_or.mp sent).2
        exact (appData_agrees_iff reader id small).mpr ((fits.1 programHash rfl).resolve_left nonempty)
  | appData blob =>
    dsimp only [frameMessages, appDataMessages, HashesFit] at short ⊢
    cases current : node.currentProgramHash with
    | none => exact iff_of_true (forall_mem_nil _) nofun
    | some programHash =>
      rw [current] at short
      rw [toList_some, map_singleton, forall_mem_singleton] at short ⊢
      rw [appData_agrees_iff reader id short]
      exact ⟨fun length other same => some.inj same ▸ length, fun all => all programHash rfl⟩
  | _ => exact iff_of_true (forall_mem_nil _) trivial

end

def wakeOf (programHash : Bytes) : NodeMessage := .wake 1 programHash 3000 [0x31] (some [5])

theorem connector_codecs_agree_small :
    NodeMessage.decode .definite msgWake (wakeOf (List.replicate 32 9)).encode = .ok (wakeOf (List.replicate 32 9)) ∧
    ∀ m ∈ frameMessages smallNode (wakeOf (List.replicate 32 9)) 8 none (some 200) none, Agrees .definite m := by
  have decoded : decode .definite msgWake (wakeOf (replicate 32 9)).encode =
      .ok (wakeOf (replicate 32 9)) := by
    decide +kernel
  refine ⟨decoded, (connector_codecs_agree_iff .definite decoded (by decide) (by decide) (by decide +kernel)).mpr ?_⟩
  refine ⟨fun _ same => ?_, nofun⟩
  cases same
  exact .inr rfl

theorem short_hash_not_read :
    (processFrame plainLib smallInputs (smallFrame 5 (wakeOf [9]) 7) smallGateway).1.toOption.isSome = true ∧
    (∀ m ∈ frameMessages smallNode (wakeOf [9]) 8 none (some 200) none, ¬Agrees .definite m) ∧
    ∀ m ∈ frameMessages smallNode (.appData [5]) 8 none none none, ¬Agrees .definite m := by
  unfold Agrees
  refine ⟨by decide +kernel, by decide +kernel, by decide +kernel⟩

end Sonde.System
