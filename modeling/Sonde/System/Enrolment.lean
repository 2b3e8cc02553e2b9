import Sonde.Gateway.Engine
import Sonde.Node.Provisioning
import Sonde.Phone.Provision

/-!
# From the phone through the node to the gateway

The phone seals the request and hands it to the node, the node stores it and relays it as it is, and the gateway opens it and
registers the node.
-/

namespace Sonde.System
open Lib Lib.Program Protocol Phone Cbor List Option
open Node (PairingStore NodeProvision handleBleWrite parseNodeProvision handleNodeProvision Stored)
open Phone (Text PairingArtifacts Draws BleTransport PairingError NodeAckStatus)
open Engine (Gateway Libraries Inputs processFrame)
open Gateway (NodeRecord PhonePskRecord PairingRequestFields textString)

/-! ## The phone and the node -/

/-- What a BLE connection does: the negotiated MTU, whether the write and the indication arrive, and the node's power. -/
structure BleLink where
  connects : Except PairingError Nat
  writes : Except PairingError Unit
  indicates : Bool
  power : Power

structure BleSession where
  store : PairingStore
  indication : Option Bytes

def bleTransport (items : ItemReader) (link : BleLink) : BleTransport BleSession where
  connect session := (link.connects, { session with indication := none })
  writeCharacteristic data session :=
    match link.writes with
    | .error e => (.error e, session)
    | .ok () =>
      let (indication, store) := handleBleWrite items link.power data session.store
      (.ok (), ⟨store, indication⟩)
  readIndication session :=
    match session.indication.filter fun _ => link.indicates with
    | none => (.error (.transport "indication timeout"), session)
    | some response => (.ok response, { session with indication := none })
  disconnect session := session

variable {message : Bytes}

theorem parseBleEnvelope_encode {msgType : BitVec 8} {body : Bytes}
    (built : encodeBleEnvelope msgType body = some message) : parseBleEnvelope message = some (msgType, body) := by
  unfold encodeBleEnvelope at built
  split at built
  · cases built
  · rename_i short
    cases built
    have length : ofBigEndian (toBigEndian 2 body.length) = body.length := ofBigEndian_toBigEndian (by omega)
    have head : ((msgType :: toBigEndian 2 body.length ++ body).drop 1).take 2 = toBigEndian 2 body.length :=
      take_left' (by simp)
    have tail : (msgType :: toBigEndian 2 body.length ++ body).drop 3 = body := drop_left' (by simp)
    unfold parseBleEnvelope
    rw [head, length, tail, if_neg (by simp), if_neg (by simp; omega)]
    rfl

variable {boardLayout : Option Board.Layout}

section
variable {keyHint : BitVec 16} {psk : Bytes32} {rfChannel : BitVec 8} {frame layoutCbor : Bytes} {items : ItemReader}
  {provision : NodeProvision}

theorem parseNodeProvision_payload (short : frame.length ≤ peerPayloadMaxLen)
    (parsed : parseNodeProvision items (provisionPayload keyHint psk rfChannel frame layoutCbor) = .ok provision) :
    provision.identity = ⟨keyHint, psk⟩ ∧ provision.rfChannel = rfChannel.toNat ∧
      (1 ≤ rfChannel.toNat ∧ rfChannel.toNat ≤ 13) ∧ provision.encryptedPayload = frame := by
  generalize isBody : provisionPayload keyHint psk rfChannel frame layoutCbor = body at parsed
  have hint : body.take 2 = toBigEndian 2 keyHint.toNat := by
    simp [← isBody, provisionPayload]
  have key : (body.drop 2).take 32 = pskBytes psk := by
    simp [← isBody, provisionPayload, pskBytes]
  have rest : body.drop 34 = rfChannel :: (toBigEndian 2 frame.length ++ (frame ++ layoutCbor)) := by
    simp only [← isBody, provisionPayload, append_assoc, cons_append]
    rw [← append_assoc]
    exact drop_left' (by simp [pskBytes])
  have channel : body.getD 34 0 = rfChannel := by
    rw [getD_eq_getElem?_getD, ← head?_drop, rest]
    rfl
  have length : (body.drop 35).take 2 = toBigEndian 2 frame.length := by
    rw [show 35 = 34 + 1 from rfl, ← drop_drop, rest]
    exact take_left' (by simp)
  have payload : (body.drop 37).take frame.length = frame := by
    rw [show 37 = 34 + 3 from rfl, ← drop_drop, rest, drop_succ_cons, drop_left' (by simp), take_left]
  have size : ofBigEndian (toBigEndian 2 frame.length) = frame.length :=
    ofBigEndian_toBigEndian (by simp only [peerPayloadMaxLen] at short; omega)
  unfold parseNodeProvision at parsed
  simp only [hint, key, channel, length, size, payload] at parsed
  split at parsed
  · cases parsed
  split at parsed
  · cases parsed
  rename_i channelOk
  have identity : (⟨BitVec.ofNat 16 (ofBigEndian (toBigEndian 2 keyHint.toNat)),
      BitVec.ofNat 256 (ofBigEndian (pskBytes psk))⟩ : Node.NodeIdentity) = ⟨keyHint, psk⟩ := by
    rw [pskBytes, ofBigEndian_toBigEndian (show keyHint.toNat < 256 ^ 2 from keyHint.isLt),
      ofBigEndian_toBigEndian (show psk.toNat < 256 ^ 32 from psk.isLt), BitVec.ofNat_toNat, BitVec.ofNat_toNat,
      BitVec.setWidth_eq, BitVec.setWidth_eq]
  split at parsed
  · cases parsed
  split at parsed
  · cases parsed
  split at parsed
  · split at parsed
    · cases parsed
      exact ⟨identity, rfl, not_not.mp channelOk, rfl⟩
    · cases parsed
  · cases parsed
    exact ⟨identity, rfl, not_not.mp channelOk, rfl⟩

variable {response : Bytes} {store after : PairingStore} {power : Power}

theorem handleBleWrite_answers {data : Bytes}
    (handled : handleBleWrite items power data store = (some response, after)) : ∃ body provision status,
      parseBleEnvelope data = some (Node.bleMsgNodeProvision, body) ∧ parseNodeProvision items body = .ok provision ∧
      response = Node.encodeNodeAck status ∧ (status = Node.nodeAckSuccess → Stored provision after) := by
  unfold handleBleWrite at handled
  split at handled
  · cases handled
  rename_i msgType body parsedEnvelope
  split at handled
  swap
  · cases handled
  rename_i isProvision
  split at handled
  · cases handled
  rename_i provision parsed
  dsimp only at handled
  have succeeds : Node.Succeeds (fun _ => True) provision (handleNodeProvision power provision) :=
    Node.handleNodeProvision_succeeds
  have met := succeeds.exits ⟨store, 0⟩ trivial
  cases run : handleNodeProvision power provision ⟨store, 0⟩ with
  | mk result written =>
    rw [run] at handled met
    cases result with
    | error e => cases handled
    | ok status =>
      cases handled
      exact ⟨body, provision, status, isProvision ▸ parsedEnvelope, parsed, rfl, met⟩

variable {read : NodeAckStatus}

theorem readAck_success {status : BitVec 8}
    (ok : readAck (Node.encodeNodeAck status) = .ok read) : status = Node.nodeAckSuccess := by
  by_contra other
  have parsed : parseEnvelope (Node.encodeNodeAck status) = .ok (nodeAck, [status]) := rfl
  have failed : NodeAckStatus.fromByte status ≠ .success := by
    unfold NodeAckStatus.fromByte
    rw [if_neg (show status ≠ 0x00 from other)]
    split
    · simp
    · split <;> simp
  cases outcome : NodeAckStatus.fromByte status with
  | success => exact failed outcome
  | _ => simp [readAck, parsed, parseNodeAck, outcome, nodeAck, msgError, bind, Except.bind] at ok

structure Enrolled (nodeKeyHint : BitVec 16) (nodePsk : Bytes32) (rfChannel : BitVec 8) (frame : Bytes) (store : PairingStore) :
    Prop where
  key : store.key = some ⟨nodeKeyHint, nodePsk⟩
  peerPayload : store.peerPayload = some frame
  regComplete : store.regComplete = false
  channel : store.channel = some rfChannel.toNat
  channel_range : 1 ≤ rfChannel.toNat ∧ rfChannel.toNat ≤ 13

variable (built : provisionMessage keyHint psk rfChannel frame boardLayout = .ok message)

include built in
theorem provisionMessage_ok :
    frame.length ≤ peerPayloadMaxLen ∧ ∃ layoutCbor,
      encodeBleEnvelope nodeProvision (provisionPayload keyHint psk rfChannel frame layoutCbor) = some message := by
  unfold provisionMessage at built
  split at built
  · cases built
  rename_i short
  obtain ⟨layoutCbor, -, built⟩ := bind_eq_ok.mp built
  dsimp only at built
  split at built
  · rename_i envelope
    cases built
    exact ⟨not_lt.mp short, layoutCbor, envelope⟩
  · cases built

include built in
theorem answered_enrols (handled : handleBleWrite items power message store = (some response, after))
    (ok : readAck response = .ok read) : Enrolled keyHint psk rfChannel frame after := by
  obtain ⟨short, layoutCbor, envelope⟩ := provisionMessage_ok built
  obtain ⟨body, provision, status, isEnvelope, parsed, rfl, stored⟩ := handleBleWrite_answers handled
  cases (parseBleEnvelope_encode envelope).symm.trans isEnvelope
  obtain ⟨identity, channel, range, payload⟩ := parseNodeProvision_payload short parsed
  have stored := stored (readAck_success ok)
  exact ⟨identity ▸ stored.key, payload ▸ stored.peerPayload, stored.regComplete, channel ▸ stored.channel, range⟩

theorem doProvisionNode_enrols {link : BleLink} : Meets (fun _ => True)
      (doProvisionNode (bleTransport items link) keyHint psk rfChannel frame boardLayout)
      (fun _ session => Enrolled keyHint psk rfChannel frame session.store) fun _ => True := by
  refine .checked (fun _ always => always) fun message built => ?_
  refine .bind (Q := fun _ (session : BleSession) => ∃ store,
    handleBleWrite items link.power message store = (session.indication, session.store)) ⟨fun before _ => ?_⟩ fun _ => ?_
  · simp only [bleTransport]
    cases link.writes with
    | error e => trivial
    | ok done => exact ⟨before.store, rfl⟩
  refine .bind (Q := fun response (session : BleSession) => ∃ store,
    handleBleWrite items link.power message store = (some response, session.store)) ⟨?_⟩ fun response => ?_
  · rintro session ⟨store, handled⟩
    simp only [bleTransport]
    cases heard : session.indication.filter fun _ => link.indicates with
    | none => trivial
    | some response =>
      have indication : session.indication = some response := (filter_eq_some_iff.mp heard).1
      exact ⟨store, indication ▸ handled⟩
  · refine ⟨?_⟩
    rintro session ⟨store, handled⟩
    rw [ofExcept_run]
    cases ok : readAck response with
    | error e => trivial
    | ok read => exact answered_enrols built handled ok

theorem provisionNode_enrols (items : ItemReader) (link : BleLink) (provider : Provider)
    (artifacts : PairingArtifacts) (draws : Draws) (nodeId : Text) (sensors : List SensorDescriptor)
    (boardLayout : Option Board.Layout) : Meets (fun _ => True)
      (provisionNode (bleTransport items link) provider artifacts draws nodeId sensors boardLayout)
      (fun _ session => ∃ nodePsk frame,
        sealRequest provider artifacts draws nodeId sensors boardLayout = .ok (nodePsk, frame) ∧
        Enrolled (keyHintFromPsk provider nodePsk) nodePsk artifacts.rfChannel frame session.store) fun _ => True := by
  refine .checked (fun _ always => always) ?_
  rintro ⟨nodePsk, frame⟩ made
  refine .bind .trivially fun mtu => .ite (fun _ => ?_) fun _ => ?_
  · exact .bind (Q := fun _ _ => True) .trivially fun _ => .stop fun _ _ => trivial
  refine .bind (.early (.attempt doProvisionNode_enrols) fun _ never => never.elim) fun result => ?_
  cases result with
  | error e => exact .bind (Q := fun _ _ => True) .trivially fun _ => .stop fun _ _ => trivial
  | ok status =>
    exact .bind (.update fun _ enrolled => enrolled) fun _ => .pure fun _ enrolled => ⟨nodePsk, frame, made, enrolled⟩

end

theorem drawn_ok {α : Type} {draw : Option α} {a : α} (ok : drawn draw = .ok a) : draw = some a := by
  cases draw with
  | none => cases ok
  | some _ => exact congrArg some (Except.ok.inj ok)

variable {provider : Provider}

theorem sealRequest_ok {artifacts : PairingArtifacts} {draws : Draws} {nodeId : Text}
    {sensors : List SensorDescriptor} {nodePsk : Bytes32} {frame : Bytes}
    (made : sealRequest provider artifacts draws nodeId sensors boardLayout = .ok (nodePsk, frame)) :
    nodeId.utf8 ≠ [] ∧ draws.nodePsk = some nodePsk ∧ ∃ timestamp, draws.unixS = some timestamp ∧ timestamp < 2 ^ 63 ∧
      ∃ innerNonce frameNonce,
        encodeFrame provider ⟨keyHintFromPsk provider artifacts.phonePsk, msgPeerRequest, frameNonce⟩
          (cborEncodeMap [(peerReqKeyPayload, .bytes (innerPayload provider artifacts.phonePsk innerNonce
            (encodePairingRequest provider nodeId nodePsk artifacts.rfChannel sensors timestamp)))])
          artifacts.phonePsk = .ok frame := by
  obtain ⟨_, named, made⟩ := bind_eq_ok.mp made
  obtain ⟨_, -, made⟩ := bind_eq_ok.mp made
  obtain ⟨psk, drawn, made⟩ := bind_eq_ok.mp made
  have nonempty : nodeId.utf8 ≠ [] := by
    intro empty
    unfold validateNodeId at named
    rw [empty] at named
    cases named
  split at made
  · cases made
  rename_i timestamp now
  obtain ⟨isNow, early⟩ := filter_eq_some_iff.mp now
  obtain ⟨encrypted, sealed, same⟩ := bind_eq_ok.mp made
  cases same
  obtain ⟨innerNonce, -, sealed⟩ := bind_eq_ok.mp sealed
  obtain ⟨frameNonce, -, sealed⟩ := bind_eq_ok.mp sealed
  refine ⟨nonempty, drawn_ok drawn, timestamp, isNow, by simpa using early, innerNonce, frameNonce, ?_⟩
  exact mapError_eq_ok.mp sealed

/-! ## What the gateway makes of it -/

variable {reader : Reader}

def registered (sensor : SensorDescriptor) : Gateway.SensorDescriptor :=
  ⟨sensor.sensorType, sensor.sensorId, sensor.label.map fun label => textString label.utf8⟩

def AdmissibleSensor (sensor : SensorDescriptor) : Prop :=
  (1 ≤ sensor.sensorType.toNat ∧ sensor.sensorType.toNat ≤ 4) ∧ ∀ label ∈ sensor.label, label.utf8.length ≤ 64

instance (sensor : SensorDescriptor) : Decidable (AdmissibleSensor sensor) := inferInstanceAs (Decidable (_ ∧ _))

theorem asNatBelow_unsigned {n bound : Nat} (fits : n < bound) (small : bound ≤ 2 ^ 64) :
    Gateway.asNatBelow bound (.unsigned n) = some n := asU64_filter fits small

theorem readSensorFields_value (sensor : SensorDescriptor) :
    (sensor.pairs.map fun (k, v) => ((.unsigned k, v) : Cbor × Cbor)).foldlM Gateway.readSensorField {} =
      if ∀ label ∈ sensor.label, label.utf8.length ≤ 64 then
        some ⟨some sensor.sensorType.toNat, some sensor.sensorId.toNat, sensor.label.map (·.utf8)⟩
      else none := by
  have isType := asNatBelow_unsigned sensor.sensorType.isLt (by decide)
  have isId := asNatBelow_unsigned sensor.sensorId.isLt (by decide)
  have one := asU64_unsigned (show 1 < 2 ^ 64 by decide)
  have two := asU64_unsigned (show 2 < 2 ^ 64 by decide)
  have three := asU64_unsigned (show 3 < 2 ^ 64 by decide)
  obtain ⟨sensorType, sensorId, label⟩ := sensor
  cases label with
  | none =>
    simp only [SensorDescriptor.pairs, map_none, toList_none, append_nil, map_cons,
      map_nil, foldlM_cons, foldlM_nil, Gateway.readSensorField, one, two, isType, isId]
    simp
  | some label =>
    simp only [SensorDescriptor.pairs, map_some, toList_some, cons_append, nil_append,
      map_cons, map_nil, foldlM_cons, foldlM_nil, Gateway.readSensorField, one, two, three, isType,
      isId, asText]
    by_cases long : label.utf8.length > 64
    · simp [long]
    · simp [long, not_lt.mp long]

theorem readSensor_value (sensors : List Gateway.SensorDescriptor) (sensor : SensorDescriptor) :
    Gateway.readSensor sensors sensor.value =
      if AdmissibleSensor sensor then some (sensors ++ [registered sensor]) else none := by
  have entries : Gateway.asMap sensor.value = some (sensor.pairs.map fun (k, v) => ((.unsigned k, v) : Cbor × Cbor)) := rfl
  unfold Gateway.readSensor
  rw [entries]
  dsimp only
  rw [readSensorFields_value]
  by_cases short : ∀ label ∈ sensor.label, label.utf8.length ≤ 64
  · rw [if_pos short]
    by_cases known : 1 ≤ sensor.sensorType.toNat ∧ sensor.sensorType.toNat ≤ 4
    · rw [if_pos (show AdmissibleSensor sensor from ⟨known, short⟩)]
      refine (if_pos known).trans ?_
      simp only [registered, BitVec.ofNat_toNat, BitVec.setWidth_eq, Option.map_map, Function.comp_def]
    · rw [if_neg (show ¬AdmissibleSensor sensor from fun admissible => known admissible.1)]
      exact if_neg known
  · rw [if_neg short, if_neg (show ¬AdmissibleSensor sensor from fun admissible => short admissible.2)]
    rfl

theorem readSensors_values (read : List Gateway.SensorDescriptor) (sensors : List SensorDescriptor) :
    (sensors.map (·.value)).foldlM Gateway.readSensor read =
      if ∀ sensor ∈ sensors, AdmissibleSensor sensor then some (read ++ sensors.map registered) else none := by
  induction sensors generalizing read with
  | nil => simp
  | cons sensor sensors ih =>
    rw [map_cons, foldlM_cons, readSensor_value]
    by_cases admissible : AdmissibleSensor sensor
    · rw [if_pos admissible, bind_eq_bind, bind_some, ih]
      simp only [forall_mem_cons, admissible, true_and, map_cons, append_assoc, singleton_append]
    · rw [if_neg admissible, if_neg fun all => admissible (all sensor mem_cons_self)]
      rfl

section
variable {nodeId : Text} {nodePsk : Bytes32} {rfChannel : BitVec 8} {sensors : List SensorDescriptor} {timestamp : Nat}

theorem value_plain (sensor : SensorDescriptor) : sensor.value.PlainIn 254 := by
  obtain ⟨sensorType, sensorId, label⟩ := sensor
  have isType : sensorType.toNat < 2 ^ 64 := sensorType.isLt.trans (by decide)
  have isId : sensorId.toNat < 2 ^ 64 := sensorId.isLt.trans (by decide)
  cases label with
  | none => exact ⟨by decide, show 1 < 2 ^ 64 by decide, isType, show 2 < 2 ^ 64 by decide, isId, trivial⟩
  | some label =>
    exact ⟨by decide, show 1 < 2 ^ 64 by decide, isType, show 2 < 2 ^ 64 by decide, isId, show 3 < 2 ^ 64 by decide,
      label.valid, trivial⟩

theorem values_plain (sensors : List SensorDescriptor) : PlainItems 254 (sensors.map (·.value)) := by
  induction sensors with
  | nil => trivial
  | cons sensor sensors ih => exact ⟨value_plain sensor, ih⟩

variable (provider nodeId nodePsk rfChannel sensors timestamp) in
def request : Cbor :=
  .map ((pairingPairs provider nodeId nodePsk rfChannel sensors timestamp).map fun (k, v) => (.unsigned k, v))

theorem request_plain (early : timestamp < 2 ^ 63) :
    (request provider nodeId nodePsk rfChannel sensors timestamp).PlainIn recursionLimit := by
  refine ⟨by decide, show 1 < 2 ^ 64 by decide, nodeId.valid, show 2 < 2 ^ 64 by decide, ?_, show 3 < 2 ^ 64 by decide, trivial,
    show 4 < 2 ^ 64 by decide, ?_, show 5 < 2 ^ 64 by decide, ⟨by decide, values_plain sensors⟩, show 6 < 2 ^ 64 by decide, ?_,
    trivial⟩
  · exact (keyHintFromPsk provider nodePsk).isLt.trans (by decide)
  · exact rfChannel.isLt.trans (by decide)
  · exact early.trans (by decide)

theorem readPairingFields_request (early : timestamp < 2 ^ 63) :
    ((pairingPairs provider nodeId nodePsk rfChannel sensors timestamp).map fun (k, v) =>
        ((.unsigned k, v) : Cbor × Cbor)).foldlM Gateway.readPairingField {} =
      if ∀ sensor ∈ sensors, AdmissibleSensor sensor then
        some ⟨some nodeId.utf8, some (keyHintFromPsk provider nodePsk).toNat, some nodePsk, some rfChannel.toNat,
          some timestamp, sensors.map registered⟩
      else none := by
  have hint := asNatBelow_unsigned (keyHintFromPsk provider nodePsk).isLt (by decide)
  have channel := asNatBelow_unsigned rfChannel.isLt (by decide)
  have now := asU64_unsigned (early.trans (by decide : 2 ^ 63 < 2 ^ 64))
  have psk : BitVec.ofNat 256 (ofBigEndian (pskBytes nodePsk)) = nodePsk := by
    rw [pskBytes, ofBigEndian_toBigEndian (show nodePsk.toNat < 256 ^ 32 from nodePsk.isLt), BitVec.ofNat_toNat,
      BitVec.setWidth_eq]
  have length : (pskBytes nodePsk).length = 32 := length_toBigEndian 32 _
  have one := asU64_unsigned (show 1 < 2 ^ 64 by decide)
  have two := asU64_unsigned (show 2 < 2 ^ 64 by decide)
  have three := asU64_unsigned (show 3 < 2 ^ 64 by decide)
  have four := asU64_unsigned (show 4 < 2 ^ 64 by decide)
  have five := asU64_unsigned (show 5 < 2 ^ 64 by decide)
  have six := asU64_unsigned (show 6 < 2 ^ 64 by decide)
  simp only [pairingPairs, computeKeyHint, map_cons, map_nil, foldlM_cons, foldlM_nil,
    Gateway.readPairingField, one, two, three, four, five, six, hint, channel, now, asText, asBytes, length, psk,
    Gateway.asArray, readSensors_values, bind_eq_bind, bind_some, if_true]
  split
  · rfl
  · rfl

theorem parsePairingRequest_request (named : nodeId.utf8 ≠ []) (range : 1 ≤ rfChannel.toNat ∧ rfChannel.toNat ≤ 13)
    (early : timestamp < 2 ^ 63)
    (short : (encodePairingRequest provider nodeId nodePsk rfChannel sensors timestamp).length < 2 ^ 64) :
    Gateway.parsePairingRequest reader (encodePairingRequest provider nodeId nodePsk rfChannel sensors timestamp) =
      if nodeId.utf8.length ≤ 64 ∧ ∀ sensor ∈ sensors, AdmissibleSensor sensor then
        some ⟨nodeId.utf8, keyHintFromPsk provider nodePsk, nodePsk, rfChannel.toNat, timestamp, sensors.map registered⟩
      else none := by
  have read : reader.fromReader (encodePairingRequest provider nodeId nodePsk rfChannel sensors timestamp) =
      .ok (request provider nodeId nodePsk rfChannel sensors timestamp) :=
    reader.fromReader_encode _ (fits_of_plain _ _ (request_plain early) short)
  have entries : Gateway.asMap (request provider nodeId nodePsk rfChannel sensors timestamp) =
      some ((pairingPairs provider nodeId nodePsk rfChannel sensors timestamp).map fun (k, v) => (.unsigned k, v)) :=
    rfl
  unfold Gateway.parsePairingRequest
  rw [read]
  simp only [Except.toOption, bind_eq_bind, bind_some, entries, readPairingFields_request early]
  by_cases admissible : ∀ sensor ∈ sensors, AdmissibleSensor sensor
  · rw [if_pos admissible, bind_some]
    by_cases long : nodeId.utf8.length ≤ 64
    · rw [if_pos ⟨long, admissible⟩]
      simp only [bind_some]
      rw [if_neg (by simp [named, long]), if_neg (not_not.mpr range), BitVec.ofNat_toNat, BitVec.setWidth_eq]
    · rw [if_neg fun both => long both.1]
      simp only [bind_some]
      exact if_pos (.inr (not_le.mp long))
  · rw [if_neg admissible, if_neg fun both => admissible both.2]
    rfl

end

theorem openPairingRequest_inner (lib : Libraries) (phonePsk : Bytes32) (innerNonce : BitVec 96) (cbor : Bytes)
    (short : (cborEncodeMap [(peerReqKeyPayload, .bytes (innerPayload lib.provider phonePsk innerNonce cbor))]).length
      < 2 ^ 64) : Engine.openPairingRequest lib phonePsk
        (cborEncodeMap [(peerReqKeyPayload, .bytes (innerPayload lib.provider phonePsk innerNonce cbor))]) =
      Gateway.parsePairingRequest lib.reader cbor := by
  have read := lib.reader.fromReader_encode
    (.map [(.unsigned 1, .bytes (innerPayload lib.provider phonePsk innerNonce cbor))])
    (fits_of_plain _ _ ⟨by decide, show 1 < 2 ^ 64 by decide, trivial, trivial⟩ short)
  set inner := innerPayload lib.provider phonePsk innerNonce cbor with isInner
  have length : ¬inner.length < 12 + 16 := by
    simp only [isInner, innerPayload, length_append, length_toBigEndian, Provider.length_encrypt, aeadTagSize]
    omega
  have nonce : inner.take 12 = toBigEndian 12 innerNonce.toNat := take_left' (length_toBigEndian 12 _)
  have body : inner.drop 12 = lib.provider.encrypt phonePsk (toBigEndian 12 innerNonce.toNat) Engine.pairingAad cbor :=
    drop_left' (length_toBigEndian 12 _)
  have found : Engine.encryptedPayload [(.unsigned 1, .bytes inner)] = some inner := by
    simp only [Engine.encryptedPayload, foldl_cons, foldl_nil, asU64_unsigned (show 1 < 2 ^ 64 by decide)]
    rfl
  unfold Engine.openPairingRequest
  change (do
    let cbor ← (lib.reader.fromReader (encode (.map [(.unsigned 1, .bytes _)]))).toOption
    _ : Option PairingRequestFields) = _
  rw [read]
  simp only [Except.toOption, bind_eq_bind, bind_some, Gateway.asMap, found]
  rw [if_neg length, nonce, body, lib.provider.decrypt_encrypt, bind_some]

/-! ## Registration -/

def ActivePhone (provider : Provider) (artifacts : PairingArtifacts) (g : Gateway) : Prop :=
  ∃ phone ∈ g.phonePsks, phone.psk = artifacts.phonePsk ∧ phone.status ≠ .revoked ∧
    phone.phoneKeyHint = keyHintFromPsk provider artifacts.phonePsk

def OnlyKeyOpens (provider : Provider) (artifacts : PairingArtifacts) (frame : Bytes) (g : Gateway) : Prop :=
  ∀ phone ∈ g.phonePsks, phone.psk ≠ artifacts.phonePsk → ∀ decoded payload, decodeFrame frame = .ok decoded →
    openFrame provider decoded phone.psk ≠ .ok payload

/-- The gateway answers the frame and has the node as the phone described it; nothing else has changed in its registry. -/
def Registers (lib : Libraries) (inputs : Inputs) (frame : Bytes) (g : Gateway) (nodeId : Text) (nodePsk : Bytes32)
    (rfChannel : BitVec 8) (sensors : List SensorDescriptor) : Prop :=
  ∃ reply after record, processFrame lib inputs frame g = (.ok reply, after) ∧
    after.nodes = g.nodes.insert (textString nodeId.utf8) record ∧ record.nodeId = textString nodeId.utf8 ∧
    record.psk = nodePsk ∧ record.keyHint = keyHintFromPsk lib.provider nodePsk ∧ record.rfChannel = some rfChannel.toNat ∧
    record.sensors = sensors.map registered

variable {lib : Libraries} {inputs : Inputs} {g : Gateway} {artifacts : PairingArtifacts} {frame : Bytes}
    {payload : Bytes} {decoded : DecodedFrame}

theorem openingPhone_found (decodes : decodeFrame frame = .ok decoded)
    (hint : decoded.header.keyHint = keyHintFromPsk lib.provider artifacts.phonePsk)
    (opens : openFrame lib.provider decoded artifacts.phonePsk = .ok payload)
    (active : ActivePhone lib.provider artifacts g) (only : OnlyKeyOpens lib.provider artifacts frame g) :
    ∃ phone, phone.psk = artifacts.phonePsk ∧
      Engine.openingPhone lib decoded (g.phonePsks.filter (·.phoneKeyHint = decoded.header.keyHint)) = some (phone, payload) := by
  obtain ⟨known, member, isPsk, notRevoked, isHint⟩ := active
  unfold Engine.openingPhone
  cases found : (g.phonePsks.filter (·.phoneKeyHint = decoded.header.keyHint)).findSome? fun phone =>
    if phone.status = .revoked then none else (openFrame lib.provider decoded phone.psk).toOption.map (phone, ·) with
  | none =>
    have missed := findSome?_eq_none_iff.mp found known (mem_filter.mpr ⟨member, by simp [isHint, hint]⟩)
    rw [if_neg notRevoked, isPsk, opens] at missed
    cases missed
  | some result =>
    obtain ⟨phone, isPhone, opened⟩ := exists_of_findSome?_eq_some found
    split at opened
    · cases opened
    obtain ⟨payload', opens', rfl⟩ := map_eq_some_iff.mp opened
    have samePsk : phone.psk = artifacts.phonePsk := by
      by_contra other
      have closed := only phone (mem_filter.mp isPhone).1 other decoded payload' decodes
      cases result : openFrame lib.provider decoded phone.psk with
      | error e =>
        rw [result] at opens'
        cases opens'
      | ok payload =>
        rw [result] at opens' closed
        exact closed (congrArg Except.ok (some.inj opens'))
    rw [samePsk, opens] at opens'
    cases opens'
    exact ⟨phone, samePsk, rfl⟩

def requested (provider : Provider) (nodeId : Text) (nodePsk : Bytes32) (rfChannel : BitVec 8)
    (sensors : List SensorDescriptor) (phoneId : Nat) : NodeRecord :=
  { NodeRecord.new (textString nodeId.utf8) (keyHintFromPsk provider nodePsk) nodePsk with
    rfChannel := some rfChannel.toNat
    sensors := sensors.map registered
    registeredByPhoneId := some phoneId }

theorem registerPeer_new {record : NodeRecord} (new : g.nodes.lookup record.nodeId = none) :
    Engine.registerPeer inputs record g =
      if inputs.fault .insertNode then (.error .discarded, g)
      else (.ok (), { g with nodes := g.nodes.insert record.nodeId record }) := by
  unfold Engine.registerPeer Engine.guardFault
  cases inputs.fault .insertNode with
  | true => rfl
  | false =>
    simp only [Bool.false_eq_true, if_false, bind_run, pure_run, read_run, new]
    rfl

theorem authenticatePhone_run {phone : PhonePskRecord}
    (found : Engine.openingPhone lib decoded (g.phonePsks.filter (·.phoneKeyHint = decoded.header.keyHint)) =
      some (phone, payload)) :
    Engine.authenticatePhone lib inputs decoded g =
      if inputs.fault .phonePsksByKeyHint then (.error .discarded, g) else (.ok (phone, payload), g) := by
  unfold Engine.authenticatePhone Engine.guardFault
  cases inputs.fault .phonePsksByKeyHint with
  | true => rfl
  | false =>
    simp only [Bool.false_eq_true, if_false, bind_run, pure_run, read_run, found]
    rfl

theorem encodeResponse_peerAck (lib : Libraries) (header : FrameHeader) (psk : Bytes32) :
    ∃ reply, ∀ g, Engine.encodeResponse lib header Engine.peerAckCbor psk none g =
      (.ok reply, { g with sealed := ⟨psk, header, Engine.peerAckCbor, none⟩ :: g.sealed }) := by
  obtain ⟨reply, sealed⟩ : ∃ reply, encodeFrame lib.provider header Engine.peerAckCbor psk = .ok reply :=
    ⟨_, encodeFrame_ok.mpr ⟨by decide, rfl⟩⟩
  refine ⟨reply, fun g => ?_⟩
  unfold Engine.encodeResponse
  rw [sealed]
  rfl

theorem inner_length_le {phonePsk : Bytes32} {innerNonce : BitVec 96} (cbor : Bytes) :
    cbor.length ≤
      (cborEncodeMap [(peerReqKeyPayload, .bytes (innerPayload provider phonePsk innerNonce cbor))]).length := by
  have member : (peerReqKeyPayload, bytes (innerPayload provider phonePsk innerNonce cbor)) ∈
      [(peerReqKeyPayload, bytes (innerPayload provider phonePsk innerNonce cbor))] :=
    mem_singleton.mpr rfl
  have inside := cborEncodeMap_length member
  rw [encode, length_append] at inside
  simp only [innerPayload, length_append, Provider.length_encrypt] at inside ⊢
  omega

variable {nodeId : Text} {nodePsk : Bytes32} {sensors : List SensorDescriptor} {timestamp now : Nat}
  {innerNonce : BitVec 96} {frameNonce : BitVec 64}

theorem processFrame_request
    (sealed : encodeFrame lib.provider ⟨keyHintFromPsk lib.provider artifacts.phonePsk, msgPeerRequest, frameNonce⟩
      (cborEncodeMap [(peerReqKeyPayload, .bytes (innerPayload lib.provider artifacts.phonePsk innerNonce
        (encodePairingRequest lib.provider nodeId nodePsk artifacts.rfChannel sensors timestamp)))])
      artifacts.phonePsk = .ok frame)
    (named : nodeId.utf8 ≠ []) (range : 1 ≤ artifacts.rfChannel.toNat ∧ artifacts.rfChannel.toNat ≤ 13)
    (early : timestamp < 2 ^ 63) (isNow : inputs.unixMs = some now)
    (within : Engine.absDiff (now / 1000) timestamp ≤ Engine.maxTimestampDriftS)
    (new : g.nodes.lookup (textString nodeId.utf8) = none) (active : ActivePhone lib.provider artifacts g)
    (only : OnlyKeyOpens lib.provider artifacts frame g) :
    ∃ phoneId reply sealedFrames, processFrame lib inputs frame g =
      if inputs.fault .phonePsksByKeyHint = false ∧
          (nodeId.utf8.length ≤ 64 ∧ ∀ sensor ∈ sensors, AdmissibleSensor sensor) ∧ inputs.fault .insertNode = false then
        (.ok reply, { g with
          nodes := g.nodes.insert (textString nodeId.utf8)
            (requested lib.provider nodeId nodePsk artifacts.rfChannel sensors phoneId)
          sealed := sealedFrames })
      else (.error .discarded, g) := by
  obtain ⟨decoded, decodes, isHeader, opens⟩ := encodeFrame_opens sealed
  obtain ⟨room, -⟩ := encodeFrame_ok.mp sealed
  obtain ⟨phone, isPsk, found⟩ := openingPhone_found decodes (by rw [isHeader]) opens active only
  have shortOuter := room.trans_lt (show maxPayloadSize < 2 ^ 64 by decide)
  have shortInner := (inner_length_le _).trans_lt shortOuter
  have opened := openPairingRequest_inner lib artifacts.phonePsk innerNonce _ shortOuter
  rw [parsePairingRequest_request named range early shortInner] at opened
  obtain ⟨reply, replies⟩ := encodeResponse_peerAck lib
    ⟨keyHintFromPsk lib.provider nodePsk, msgPeerAck, decoded.header.nonce⟩ nodePsk
  refine ⟨phone.phoneId, reply,
    ⟨nodePsk, ⟨keyHintFromPsk lib.provider nodePsk, msgPeerAck, decoded.header.nonce⟩, Engine.peerAckCbor, none⟩ :: g.sealed,
    ?_⟩
  have isPeer : decoded.header.msgType = msgPeerRequest := by rw [isHeader]
  have handled : processFrame lib inputs frame g = Engine.handlePeerRequest lib inputs decoded g := by
    unfold processFrame
    rw [decodes]
    exact congrFun (if_pos isPeer) g
  rw [handled, Engine.handlePeerRequest, bind_run, authenticatePhone_run found]
  cases inputs.fault .phonePsksByKeyHint with
  | true => rfl
  | false =>
    simp only [Bool.false_eq_true, if_false, true_and]
    rw [bind_run, isPsk, opened]
    by_cases admissible : nodeId.utf8.length ≤ 64 ∧ ∀ sensor ∈ sensors, AdmissibleSensor sensor
    swap
    · rw [if_neg admissible, if_neg fun both => admissible both.1]
      rfl
    rw [if_pos admissible, isNow]
    simp only [Engine.orDiscard, pure_run, bind_run]
    rw [if_neg (not_lt.mpr within), if_neg (not_not.mpr rfl)]
    change (Engine.registerPeer inputs (requested lib.provider nodeId nodePsk artifacts.rfChannel sensors phone.phoneId) >>=
      fun _ => Engine.encodeResponse lib ⟨keyHintFromPsk lib.provider nodePsk, msgPeerAck, decoded.header.nonce⟩
        Engine.peerAckCbor nodePsk none) g = _
    rw [bind_run, registerPeer_new new]
    cases inputs.fault .insertNode with
    | true => simp
    | false =>
      simp only [Bool.false_eq_true, if_false]
      rw [if_pos ⟨admissible, trivial⟩]
      exact replies _

def Admissible (nodeId : Text) (sensors : List SensorDescriptor) : Prop :=
  nodeId.utf8.length ≤ 64 ∧ ∀ sensor ∈ sensors, AdmissibleSensor sensor

theorem enrolment_registers_iff (lib : Libraries) (items : Cbor.ItemReader) (link : BleLink) (artifacts : PairingArtifacts)
    (draws : Draws) (nodeId : Text) (sensors : List Phone.SensorDescriptor) (boardLayout : Option Board.Layout)
    (before after : BleSession) (status : NodeAckStatus)
    (success : Phone.provisionNode (bleTransport items link) lib.provider artifacts draws nodeId sensors boardLayout before =
      (.ok status, after)) : ∃ nodePsk timestamp frame, draws.nodePsk = some nodePsk ∧ draws.unixS = some timestamp ∧
      after.store.peerPayload = some frame ∧ ∀ (inputs : Inputs) (g : Gateway) (now : Nat), inputs.unixMs = some now →
        Engine.absDiff (now / 1000) timestamp ≤ Engine.maxTimestampDriftS →
        g.nodes.lookup (textString nodeId.utf8) = none → ActivePhone lib.provider artifacts g →
        OnlyKeyOpens lib.provider artifacts frame g →
        (Registers lib inputs frame g nodeId nodePsk artifacts.rfChannel sensors ↔
          Admissible nodeId sensors ∧ inputs.fault .phonePsksByKeyHint = false ∧ inputs.fault .insertNode = false) := by
  have met := (provisionNode_enrols items link lib.provider artifacts draws nodeId sensors boardLayout).exits before trivial
  rw [success] at met
  obtain ⟨nodePsk, frame, made, enrolled⟩ := met
  obtain ⟨named, isPsk, timestamp, isNow, early, innerNonce, frameNonce, sealed⟩ := sealRequest_ok made
  refine ⟨nodePsk, timestamp, frame, isPsk, isNow, enrolled.peerPayload, ?_⟩
  intro inputs g now clock within new active only
  obtain ⟨phoneId, reply, sealedFrames, run⟩ :=
    processFrame_request sealed named enrolled.channel_range early clock within new active only
  constructor
  · rintro ⟨reply', after', record, ran, -⟩
    rw [run] at ran
    split at ran
    · rename_i all
      exact ⟨all.2.1, all.1, all.2.2⟩
    · cases ran
  · rintro ⟨admissible, phones, inserts⟩
    rw [if_pos ⟨phones, admissible, inserts⟩] at run
    exact ⟨reply, _, _, run, rfl, rfl, rfl, rfl, rfl, rfl⟩

def smallLink : BleLink := ⟨.ok 247, .ok (), true, ⟨fun _ => false, none⟩⟩

def smallArtifacts : PairingArtifacts := ⟨8, 6⟩

def smallDraws : Draws := ⟨some 9, some 1, some 2, some 1⟩

def enrol (nodeId : Text) (sensorType : BitVec 8) : Except PairingError NodeAckStatus × BleSession :=
  provisionNode (bleTransport .definite smallLink) plainProvider smallArtifacts smallDraws nodeId
    [⟨sensorType, 0x48, none⟩] none ⟨Node.blankStore, none⟩

def storedFrame (nodeId : Text) (sensorType : BitVec 8) : Bytes := (enrol nodeId sensorType).2.store.peerPayload.getD []

def shortId : Text := ⟨[0x61], rfl⟩

def paddedId : Text := ⟨replicate 64 0x61 ++ [0x20, 0x20], by decide⟩

theorem smallPhone_active : ActivePhone plainProvider smallArtifacts Engine.smallGateway :=
  ⟨Engine.smallPhone, mem_singleton.mpr rfl, rfl, by decide, rfl⟩

theorem smallPhone_only (frame : Bytes) : OnlyKeyOpens plainProvider smallArtifacts frame Engine.smallGateway := by
  intro phone member other
  obtain rfl := mem_singleton.mp member
  exact absurd rfl other

theorem enrolment_registers_small : (enrol shortId 1).1 = .ok .success ∧
      Registers Engine.plainLib Engine.smallInputs (storedFrame shortId 1) Engine.smallGateway shortId 9 6
        [⟨1, 0x48, none⟩] := by
  have succeeds : (enrol shortId 1).1 = .ok .success := by decide +kernel
  have pair (run : Except PairingError NodeAckStatus × BleSession) (first : run.1 = .ok .success) :
      run = (.ok .success, run.2) := Prod.ext first rfl
  obtain ⟨nodePsk, timestamp, frame, isPsk, isNow, stored, registers⟩ :=
    enrolment_registers_iff Engine.plainLib .definite smallLink smallArtifacts smallDraws shortId [⟨1, 0x48, none⟩] none
      ⟨Node.blankStore, none⟩ (enrol shortId 1).2 .success (pair (enrol shortId 1) succeeds)
  cases isPsk
  cases isNow
  have isFrame : storedFrame shortId 1 = frame := by
    unfold storedFrame
    rw [stored]
    rfl
  rw [isFrame]
  refine ⟨succeeds, (registers Engine.smallInputs Engine.smallGateway 1000 rfl (by decide) (by decide) smallPhone_active
    (smallPhone_only frame)).mpr ⟨⟨by decide, ?_⟩, rfl, rfl⟩⟩
  intro sensor member
  obtain rfl := mem_singleton.mp member
  decide

theorem padded_id_not_registered :
    (enrol paddedId 1).1 = .ok .success ∧ ActivePhone plainProvider smallArtifacts Engine.smallGateway ∧
      OnlyKeyOpens plainProvider smallArtifacts (storedFrame paddedId 1) Engine.smallGateway ∧
      Engine.smallGateway.nodes.lookup (textString paddedId.utf8) = none ∧
      ¬Registers Engine.plainLib Engine.smallInputs (storedFrame paddedId 1) Engine.smallGateway paddedId 9 6
        [⟨1, 0x48, none⟩] := by
  refine ⟨by decide +kernel, smallPhone_active, smallPhone_only _, by decide +kernel, ?_⟩
  rintro ⟨reply, after, record, ran, -⟩
  have refused : (processFrame Engine.plainLib Engine.smallInputs (storedFrame paddedId 1) Engine.smallGateway).1.isOk =
      false := by
    decide +kernel
  rw [ran] at refused
  cases refused

end Sonde.System
