import Sonde.Gateway.Crypto
import Sonde.Lib.Except
import Sonde.Lib.Table
import Sonde.Protocol.SourceFilename

namespace Sonde.Gateway
open Lib Protocol

structure NodeRow (Blob : Type) extends NodeInfo where
  psk : Stored Blob
  masterKeyId : Option Bytes32
  masterKeyEpoch : Nat

structure PhoneRow (Blob : Type) extends PhoneInfo where
  psk : Stored Blob
  masterKeyId : Option Bytes32
  masterKeyEpoch : Nat

structure IdentityRow (Blob : Type) where
  encryptedSeed : Stored Blob
  encryptedSeedNew : Option (Stored Blob)
  gatewayId : BitVec 128
  publicKey : Bytes32

inductive RotationPhase where
  | migratingPsks | rewrappingIdentity | committing
  deriving DecidableEq, Repr

structure PendingRotationRecord (Blob : Type) where
  newMasterKeyEnc : Stored Blob
  newMasterKeyId : Bytes32
  newEpoch : Nat
  phase : RotationPhase

structure PendingRecoveryRow (Blob : Type) where
  encryptedPsk : Stored Blob
  masterKeyId : Bytes32
  masterKeyEpoch : Nat

structure Db (Blob : Type) where
  nodes : Table String (NodeRow Blob)
  phonePsks : Table Nat (PhoneRow Blob)
  phoneSequence : Nat
  programs : Table Bytes ProgramRecord
  masterKeyId : Option Bytes32
  masterKeyEpoch : Option Nat
  rotationCode : Option String
  identity : Option (IdentityRow Blob)
  pendingRotation : Option (PendingRotationRecord Blob)
  pendingRecovery : Table (BitVec 16 × String) (PendingRecoveryRow Blob)

structure RotationKeyState where
  newKey : Bytes32
  newEpoch : Nat

structure Store (Blob : Type) where
  db : Db Blob
  masterKey : Bytes32
  rotationKeyState : Option RotationKeyState

def i64Max : Nat := 2 ^ 63 - 1

def u32Max : Nat := 2 ^ 32 - 1

variable {Blob : Type}

def readCurrentKeyMetadata (db : Db Blob) : Except StorageError (Bytes32 × Nat) :=
  match db.masterKeyId with
  | none =>
    .error (.internal ("master_key_id not initialised in gateway_config; " ++
      "init_master_key_id must be called before inserting PSK records"))
  | some id =>
    match db.masterKeyEpoch with
    | none =>
      .error (.internal ("master_key_epoch not initialised in gateway_config; " ++
        "init_master_key_id must be called before inserting PSK records"))
    | some epoch =>
      if i64Max < epoch then
        .error (.internal ("gateway_config master_key_epoch is not a valid i64: " ++
          "number too large to fit in target type"))
      else if epoch < 1 then
        .error (.internal s!"gateway_config master_key_epoch must be >= 1, got {epoch}")
      else .ok (id, epoch)

def getMasterKeyEpoch (db : Db Blob) : Nat := db.masterKeyEpoch.getD 0

-- The WHERE clause of the two UPDATE statements of `init_master_key_id`.
def needsStamp (id : Bytes32) (epoch : Nat) (rowId : Option Bytes32) (rowEpoch : Nat) : Bool :=
  rowId != some id || rowEpoch < epoch

def stampNode (id : Bytes32) (epoch : Nat) (row : NodeRow Blob) : NodeRow Blob :=
  if needsStamp id epoch row.masterKeyId row.masterKeyEpoch then
    { row with masterKeyId := some id, masterKeyEpoch := epoch }
  else row

def stampPhone (id : Bytes32) (epoch : Nat) (row : PhoneRow Blob) : PhoneRow Blob :=
  if needsStamp id epoch row.masterKeyId row.masterKeyEpoch then
    { row with masterKeyId := some id, masterKeyEpoch := epoch }
  else row

variable (c : IdealCrypto Blob)

def initMasterKeyId (s : Store Blob) : Except StorageError ((Bytes32 × Nat) × Store Blob) :=
  let id := c.sha256 s.masterKey
  let epoch := if getMasterKeyEpoch s.db = 0 then 1 else getMasterKeyEpoch s.db
  if s.db.masterKeyId = some id ∧ getMasterKeyEpoch s.db ≠ 0 then .ok ((id, epoch), s)
  else if i64Max < epoch then .error (.internal s!"master_key_epoch {epoch} exceeds i64::MAX")
  else
    .ok ((id, epoch),
      { s with db := { s.db with
          masterKeyId := some id
          masterKeyEpoch := some epoch
          nodes := s.db.nodes.mapRows fun _ => stampNode id epoch
          phonePsks := s.db.phonePsks.mapRows fun _ => stampPhone id epoch } })

/-! ## Writers -/

def keyVersionFits (keyVersion : Nat) : Except StorageError Unit :=
  if i64Max < keyVersion then .error (.internal s!"key_version {keyVersion} exceeds i64::MAX") else .ok ()

def nodeRow (masterKey : Bytes32) (nonce : BitVec 96) (id : Bytes32) (epoch : Nat) (record : NodeRecord) : NodeRow Blob :=
  { record.toNodeInfo with
    psk := encryptPsk c masterKey nonce record.nodeId record.psk
    masterKeyId := some id
    masterKeyEpoch := epoch }

def upsertNode (nonce : BitVec 96) (record : NodeRecord) (s : Store Blob) : Except StorageError (Store Blob) := do
  keyVersionFits record.keyVersion
  let (id, epoch) ← readCurrentKeyMetadata s.db
  let row := nodeRow c s.masterKey nonce id epoch record
  return { s with db := { s.db with nodes := s.db.nodes.insert record.nodeId row } }

def insertNodeIfNotExists (nonce : BitVec 96) (record : NodeRecord) (s : Store Blob) :
    Except StorageError (Bool × Store Blob) := do
  keyVersionFits record.keyVersion
  let (id, epoch) ← readCurrentKeyMetadata s.db
  if record.nodeId ∈ s.db.nodes then return (false, s)
  else
    let row := nodeRow c s.masterKey nonce id epoch record
    return (true, { s with db := { s.db with nodes := s.db.nodes.insert record.nodeId row } })

def insertProgram (programs : Table Bytes ProgramRecord) (record : ProgramRecord) :
    Except StorageError (Table Bytes ProgramRecord) :=
  if record.hash ∈ programs then .error (.internal "UNIQUE constraint failed: programs.hash")
  else
    .ok (programs.insert record.hash
      { record with
        sourceFilename := normalizeDisplayFilename record.sourceFilename
        decoderImage := none })

-- The INSERT of `replace_state` leaves out the radio channel, the sensors and the registering phone.
def replacedRow (masterKey : Bytes32) (nonces : String → BitVec 96) (id : Bytes32)
    (epoch : Nat) (record : NodeRecord) : NodeRow Blob :=
  { nodeRow c masterKey (nonces record.nodeId) id epoch record with
    rfChannel := none, sensors := [], registeredByPhoneId := none }

def insertNode (masterKey : Bytes32) (nonces : String → BitVec 96) (id : Bytes32)
    (epoch : Nat) (nodes : Table String (NodeRow Blob)) (record : NodeRecord) :
    Except StorageError (Table String (NodeRow Blob)) := do
  keyVersionFits record.keyVersion
  if record.nodeId ∈ nodes then throw (.internal "UNIQUE constraint failed: nodes.node_id")
  else return nodes.insert record.nodeId (replacedRow c masterKey nonces id epoch record)

def replaceState (nonces : String → BitVec 96) (nodes : List NodeRecord)
    (programs : List ProgramRecord) (s : Store Blob) : Except StorageError (Store Blob) := do
  let (id, epoch) ← readCurrentKeyMetadata s.db
  let newPrograms ← programs.foldlM insertProgram ∅
  let newNodes ← nodes.foldlM (insertNode c s.masterKey nonces id epoch) ∅
  return { s with db := { s.db with nodes := newNodes, programs := newPrograms } }

def phoneRow (masterKey : Bytes32) (nonce : BitVec 96) (id : Bytes32) (epoch phoneId : Nat)
    (record : PhonePskRecord) : PhoneRow Blob :=
  { record.toPhoneInfo with
    psk := encryptPhonePsk c masterKey nonce phoneId record.psk
    masterKeyId := some id
    masterKeyEpoch := epoch }

def nextPhoneId (db : Db Blob) : Nat := db.phonePsks.keys.foldl max db.phoneSequence + 1

def storePhonePsk (nonce : BitVec 96) (record : PhonePskRecord) (s : Store Blob) :
    Except StorageError (Nat × Store Blob) := do
  if phoneLabelMaxBytes < record.label.utf8ByteSize then
    throw (.internal s!"phone label exceeds {phoneLabelMaxBytes}-byte limit: {record.label.utf8ByteSize} bytes")
  else
    keyVersionFits record.keyVersion
    let (id, epoch) ← readCurrentKeyMetadata s.db
    let phoneId := nextPhoneId s.db
    if u32Max < phoneId then throw (.internal s!"phone_id rowid {phoneId} exceeds u32::MAX")
    else
      let row := phoneRow c s.masterKey nonce id epoch phoneId record
      return (phoneId, { s with db := { s.db with
        phonePsks := s.db.phonePsks.insert phoneId row, phoneSequence := phoneId } })

def rowToNode (masterKey : Bytes32) (rotationKey : Option RotationKeyState) (nodeId : String)
    (row : NodeRow Blob) : Except StorageError NodeRecord := do
  let decryptKey :=
    match rotationKey with
    | some state => if state.newEpoch ≤ row.masterKeyEpoch then state.newKey else masterKey
    | none => masterKey
  match decryptPsk c decryptKey nodeId row.psk with
  | .ok psk => return { row.toNodeInfo with nodeId := nodeId, psk := psk }
  | .error e => throw (.internal s!"psk decryption failed for node '{nodeId}': {e}")

def getNode (nodeId : String) (s : Store Blob) : Except StorageError (Option NodeRecord) :=
  match s.db.nodes.lookup nodeId with
  | none => .ok none
  | some row => (rowToNode c s.masterKey s.rotationKeyState nodeId row).map some

def migrateLegacyRow (nonces : String → BitVec 96) (masterKey : Bytes32) (nodeId : String)
    (row : NodeRow Blob) : NodeRow Blob :=
  match row.psk with
  | .plain psk => { row with psk := encryptPsk c masterKey (nonces nodeId) nodeId psk }
  | _ => row

def migrateLegacyPsks (nonces : String → BitVec 96) (masterKey : Bytes32) (db : Db Blob) : Db Blob :=
  { db with nodes := db.nodes.mapRows (migrateLegacyRow c nonces masterKey) }

def loadPendingRotationKey (currentKey : Bytes32) (db : Db Blob) : Except StorageError (Option Bytes32) :=
  match db.pendingRotation with
  | none => .ok none
  | some pending =>
    match pending.newMasterKeyEnc with
    | .sealed blob =>
      match c.decrypt currentKey pendingRotationAad blob with
      | some key => .ok (some key)
      | none =>
        if getMasterKeyEpoch db = pending.newEpoch then .ok none
        else
          .error (.internal ("cannot decrypt pending_rotation.new_master_key_enc — wrong master key " ++
            "or data corruption"))
    | other =>
      .error (.internal
        s!"pending_rotation.new_master_key_enc has wrong length: {other.length} (expected {encryptedPskLen})")

def Stored.isSealed : Stored Blob → Bool
  | .sealed _ => true
  | _ => false

def Stored.isMalformed : Stored Blob → Bool
  | .malformed _ => true
  | _ => false

def validateMasterKey (masterKey : Bytes32) (pendingNewKey : Option Bytes32) (db : Db Blob) : Except StorageError Unit :=
  let badCount := (db.nodes.entries.filter fun e => e.2.psk.isMalformed).length
  if 0 < badCount then
    .error (.internal (s!"master key validation failed — {badCount} node(s) have PSK blobs with " ++
      s!"unexpected lengths (expected 32 or {encryptedPskLen} bytes); database may be corrupt or tampered with"))
  else
    match db.nodes.entries.find? fun e => e.2.psk.isSealed with
    | none => .ok ()
    | some ⟨nodeId, row⟩ =>
      match decryptPsk c masterKey nodeId row.psk with
      | .ok _ => .ok ()
      | .error decryptErr =>
        match pendingNewKey with
        | some newKey =>
          match decryptPsk c newKey nodeId row.psk with
          | .ok _ => .ok ()
          | .error e =>
            .error (.internal ("master key validation failed — cannot decrypt PSK for node " ++
              s!"`{nodeId}` with either current or pending rotation key: {e}; " ++
              "this may indicate a wrong master key or corrupt/tampered database data"))
        | none =>
          .error (.internal ("master key validation failed — cannot decrypt PSK for node " ++
            s!"`{nodeId}`: {decryptErr}; this may indicate a wrong master key or " ++
            "corrupt/tampered database data"))

-- The part of `SqliteStorage::open` that follows the legacy migration.
def openStore (masterKey : Bytes32) (db : Db Blob) : Except StorageError (Store Blob) := do
  let pendingNewKey ← loadPendingRotationKey c masterKey db
  validateMasterKey c masterKey pendingNewKey db
  return {
    db := db
    masterKey := masterKey
    rotationKeyState := do
      let newKey ← pendingNewKey
      let pending ← db.pendingRotation
      return ⟨newKey, pending.newEpoch⟩ }

/-! ## Rotation -/

def epochFits (newEpoch : Nat) : Except StorageError Unit :=
  if i64Max < newEpoch then .error (.internal s!"new_epoch {newEpoch} exceeds i64::MAX") else .ok ()

def writePendingRotation (nonce : BitVec 96) (newMasterKey newMasterKeyId : Bytes32)
    (newEpoch : Nat) (s : Store Blob) : Except StorageError (Store Blob) := do
  epochFits newEpoch
  match s.db.pendingRotation with
  | some _ => throw (.internal "UNIQUE constraint failed: pending_rotation.id")
  | none =>
    return { s with db := { s.db with
      pendingRecovery := ∅
      pendingRotation := some {
        newMasterKeyEnc := encryptPendingNewKey c s.masterKey nonce newMasterKey
        newMasterKeyId := newMasterKeyId
        newEpoch := newEpoch
        phase := .migratingPsks } } }

def updateRotationPhase (phase : RotationPhase) (db : Db Blob) : Except StorageError (Db Blob) :=
  match db.pendingRotation with
  | none => .error (.internal "no pending_rotation record to update")
  | some pending => .ok { db with pendingRotation := some { pending with phase := phase } }

def listUnmigratedNodeIds (newEpoch : Nat) (db : Db Blob) : Except StorageError (List String) := do
  epochFits newEpoch
  return db.nodes.keysWhere fun row => row.masterKeyEpoch < newEpoch

def listUnmigratedPhoneIds (newEpoch : Nat) (db : Db Blob) : Except StorageError (List Nat) := do
  epochFits newEpoch
  return db.phonePsks.keysWhere fun row => row.masterKeyEpoch < newEpoch

def reencryptNode (nonce : BitVec 96) (nodeId : String) (psk newKey newKeyId : Bytes32)
    (newEpoch : Nat) (row : NodeRow Blob) : NodeRow Blob :=
  { row with
    psk := encryptPsk c newKey nonce nodeId psk
    masterKeyId := some newKeyId
    masterKeyEpoch := newEpoch }

def reencryptPhone (nonce : BitVec 96) (phoneId : Nat) (psk newKey newKeyId : Bytes32)
    (newEpoch : Nat) (row : PhoneRow Blob) : PhoneRow Blob :=
  { row with
    psk := encryptPhonePsk c newKey nonce phoneId psk
    masterKeyId := some newKeyId
    masterKeyEpoch := newEpoch }

def migrateNodePsk (nonce : BitVec 96) (nodeId : String) (oldKey newKey newKeyId : Bytes32)
    (newEpoch : Nat) (db : Db Blob) : Except StorageError (Db Blob) := do
  epochFits newEpoch
  match db.nodes.lookup nodeId with
  | none => throw (.internal "Query returned no rows")
  | some row =>
    match decryptPsk c oldKey nodeId row.psk with
    | .error e => throw (.internal s!"rotate: cannot decrypt PSK for node `{nodeId}`: {e}")
    | .ok psk =>
      return { db with nodes := db.nodes.update nodeId (reencryptNode c nonce nodeId psk newKey newKeyId newEpoch) }

def migratePhonePsk (nonce : BitVec 96) (phoneId : Nat) (oldKey newKey newKeyId : Bytes32)
    (newEpoch : Nat) (db : Db Blob) : Except StorageError (Db Blob) := do
  epochFits newEpoch
  match db.phonePsks.lookup phoneId with
  | none => throw (.internal "Query returned no rows")
  | some row =>
    let psk ← decryptPhonePsk c oldKey phoneId row.psk
    return { db with
      phonePsks := db.phonePsks.update phoneId (reencryptPhone c nonce phoneId psk newKey newKeyId newEpoch) }

def rewrapIdentitySeed (nonce : BitVec 96) (oldKey newKey : Bytes32) (db : Db Blob) : Except StorageError (Db Blob) :=
  match db.identity with
  | none => .error (.internal "no gateway_identity row to rewrap")
  | some row => do
    let seed ← decryptSeed c oldKey row.encryptedSeed row.gatewayId
    let rewrapped := encryptSeed c newKey nonce seed row.gatewayId
    return { db with identity := some { row with encryptedSeedNew := some rewrapped } }

def commitRotation (newCode : String) (newKeyId : Bytes32) (newEpoch : Nat) (db : Db Blob) :
    Except StorageError (Db Blob) :=
  match db.identity with
  | some { encryptedSeed := _, encryptedSeedNew := some seed, gatewayId, publicKey } =>
    .ok { db with
      identity := some { encryptedSeed := seed, encryptedSeedNew := none, gatewayId, publicKey }
      masterKeyId := some newKeyId
      masterKeyEpoch := some newEpoch
      rotationCode := some newCode }
  | _ =>
    .error (.internal ("commit_rotation: encrypted_seed_new is NULL — cannot promote; " ++
      "identity rewrap may not have completed"))

def deletePendingRotation (db : Db Blob) : Db Blob := { db with pendingRotation := none }

/-! ## Outcomes -/

variable {c : IdealCrypto Blob} {db db' : Db Blob} {s s' : Store Blob} {u : Unit}

theorem keyVersionFits_ok {keyVersion : Nat} : keyVersionFits keyVersion = .ok u ↔ keyVersion ≤ i64Max := by
  unfold keyVersionFits
  split <;> simp <;> omega

variable {newEpoch : Nat}

theorem epochFits_ok : epochFits newEpoch = .ok u ↔ newEpoch ≤ i64Max := by
  unfold epochFits
  split <;> simp <;> omega

variable {id : Bytes32} {epoch : Nat}

theorem readCurrentKeyMetadata_ok : readCurrentKeyMetadata db = .ok (id, epoch) ↔
      db.masterKeyId = some id ∧ db.masterKeyEpoch = some epoch ∧ 1 ≤ epoch ∧ epoch ≤ i64Max := by
  unfold readCurrentKeyMetadata
  cases db.masterKeyId with
  | none => simp
  | some storedId =>
    cases db.masterKeyEpoch with
    | none => simp
    | some storedEpoch =>
      simp only
      split_ifs with large small
      · simp; omega
      · simp; omega
      · simp only [Except.ok.injEq, Prod.mk.injEq, Option.some.injEq]
        constructor
        · rintro ⟨rfl, rfl⟩
          exact ⟨rfl, rfl, by omega, by omega⟩
        · rintro ⟨rfl, rfl, -, -⟩
          exact ⟨rfl, rfl⟩

variable {nonce : BitVec 96} {record : NodeRecord}

theorem upsertNode_ok : upsertNode c nonce record s = .ok s' ↔
      record.keyVersion ≤ i64Max ∧ ∃ id epoch, readCurrentKeyMetadata s.db = .ok (id, epoch) ∧
        { s with db := { s.db with
          nodes := s.db.nodes.insert record.nodeId (nodeRow c s.masterKey nonce id epoch record) } } = s' := by
  simp [upsertNode, bind_eq_ok, keyVersionFits_ok]

theorem insertNodeIfNotExists_ok {inserted : Bool} : insertNodeIfNotExists c nonce record s = .ok (inserted, s') ↔
      record.keyVersion ≤ i64Max ∧ ∃ id epoch, readCurrentKeyMetadata s.db = .ok (id, epoch) ∧
        if record.nodeId ∈ s.db.nodes then false = inserted ∧ s = s'
        else true = inserted ∧ { s with db := { s.db with
          nodes := s.db.nodes.insert record.nodeId (nodeRow c s.masterKey nonce id epoch record) } } = s' := by
  by_cases present : record.nodeId ∈ s.db.nodes <;> simp [insertNodeIfNotExists, bind_eq_ok, keyVersionFits_ok, present]

variable {nonces : String → BitVec 96} {masterKey : Bytes32} {nodes nodes' : Table String (NodeRow Blob)}

theorem insertNode_ok : insertNode c masterKey nonces id epoch nodes record = .ok nodes' ↔
      record.keyVersion ≤ i64Max ∧ record.nodeId ∉ nodes ∧
        nodes.insert record.nodeId (replacedRow c masterKey nonces id epoch record) = nodes' := by
  by_cases present : record.nodeId ∈ nodes <;> simp [insertNode, bind_eq_ok, keyVersionFits_ok, present]

variable {nodeId : String}

theorem insertNodes_lookup {records : List NodeRecord} {row : NodeRow Blob}
    (inserted : records.foldlM (insertNode c masterKey nonces id epoch) nodes = .ok nodes')
    (found : nodes'.lookup nodeId = some row) :
    nodes.lookup nodeId = some row ∨ nodeId ∉ nodes ∧ ∃ record, records.find? (·.nodeId = nodeId) = some record ∧
      row = replacedRow c masterKey nonces id epoch record := by
  induction records generalizing nodes with
  | nil =>
    cases inserted
    exact .inl found
  | cons first rest ih =>
    rw [List.foldlM_cons, bind_eq_ok] at inserted
    obtain ⟨middle, insertedFirst, insertedRest⟩ := inserted
    obtain ⟨-, absent, rfl⟩ := insertNode_ok.mp insertedFirst
    rcases ih insertedRest with old | ⟨later, record, last, same⟩
    · by_cases here : nodeId = first.nodeId
      · subst here
        rw [AList.lookup_insert, Option.some.injEq] at old
        exact .inr ⟨absent, first, by simp, old.symm⟩
      · rw [AList.lookup_insert_ne here] at old
        exact .inl old
    · rw [AList.mem_insert, not_or] at later
      exact .inr ⟨later.2, record, by simpa [Ne.symm later.1] using last, same⟩

theorem replaceState_ok {nodes : List NodeRecord} {programs : List ProgramRecord} :
    replaceState c nonces nodes programs s = .ok s' ↔
      ∃ id epoch, readCurrentKeyMetadata s.db = .ok (id, epoch) ∧
        ∃ newPrograms, programs.foldlM insertProgram ∅ = .ok newPrograms ∧
        ∃ newNodes, nodes.foldlM (insertNode c s.masterKey nonces id epoch) ∅ = .ok newNodes ∧
          { s with db := { s.db with nodes := newNodes, programs := newPrograms } } = s' := by
  simp [replaceState, bind_eq_ok]

variable {phoneId : Nat}

theorem storePhonePsk_ok {record : PhonePskRecord} :
    storePhonePsk c nonce record s = .ok (phoneId, s') ↔
      record.label.utf8ByteSize ≤ phoneLabelMaxBytes ∧ record.keyVersion ≤ i64Max ∧
      nextPhoneId s.db ≤ u32Max ∧ ∃ id epoch, readCurrentKeyMetadata s.db = .ok (id, epoch) ∧
        nextPhoneId s.db = phoneId ∧ { s with db := { s.db with
          phonePsks := s.db.phonePsks.insert (nextPhoneId s.db)
            (phoneRow c s.masterKey nonce id epoch (nextPhoneId s.db) record)
          phoneSequence := nextPhoneId s.db } } = s' := by
  unfold storePhonePsk
  split_ifs with long
  · simp; omega
  · by_cases exhausted : u32Max < nextPhoneId s.db
    · simp [bind_eq_ok, exhausted, Nat.not_le.mpr exhausted]
    · simp [bind_eq_ok, keyVersionFits_ok, exhausted, Nat.not_lt.mp long, Nat.not_lt.mp exhausted]

variable {newKey newKeyId : Bytes32}

theorem writePendingRotation_ok : writePendingRotation c nonce newKey newKeyId newEpoch s = .ok s' ↔
      newEpoch ≤ i64Max ∧ s.db.pendingRotation = none ∧
        { s with db := { s.db with
          pendingRecovery := ∅
          pendingRotation := some
            ⟨encryptPendingNewKey c s.masterKey nonce newKey, newKeyId, newEpoch, .migratingPsks⟩ } } = s' := by
  cases found : s.db.pendingRotation <;> simp [writePendingRotation, bind_eq_ok, epochFits_ok, found]

theorem updateRotationPhase_ok {phase : RotationPhase} :
    updateRotationPhase phase db = .ok db' ↔ ∃ pending, db.pendingRotation = some pending ∧
      { db with pendingRotation := some { pending with phase := phase } } = db' := by
  cases found : db.pendingRotation <;> simp [updateRotationPhase, found]

variable {oldKey : Bytes32}

theorem rewrapIdentitySeed_ok : rewrapIdentitySeed c nonce oldKey newKey db = .ok db' ↔
      ∃ row seed, db.identity = some row ∧ decryptSeed c oldKey row.encryptedSeed row.gatewayId = .ok seed ∧
        { db with identity := some { row with
            encryptedSeedNew := some (encryptSeed c newKey nonce seed row.gatewayId) } } = db' := by
  cases found : db.identity <;> simp [rewrapIdentitySeed, bind_eq_ok, found]

theorem commitRotation_ok {newCode : String} : commitRotation newCode newKeyId newEpoch db = .ok db' ↔
      ∃ row seed, db.identity = some row ∧ row.encryptedSeedNew = some seed ∧
        { db with
          identity := some { row with encryptedSeed := seed, encryptedSeedNew := none }
          masterKeyId := some newKeyId
          masterKeyEpoch := some newEpoch
          rotationCode := some newCode } = db' := by
  rcases found : db.identity with _ | ⟨old, _ | new, gatewayId, publicKey⟩ <;> simp [commitRotation, found]

theorem listUnmigratedNodeIds_ok {ids : List String} (listed : listUnmigratedNodeIds newEpoch db = .ok ids) :
    ids.Nodup ∧ ∀ id, id ∈ ids ↔ ∃ row, db.nodes.lookup id = some row ∧ row.masterKeyEpoch < newEpoch := by
  simp only [listUnmigratedNodeIds, bind_eq_ok, pure_eq_ok, Except.ok.injEq] at listed
  obtain ⟨-, -, rfl⟩ := listed
  exact ⟨Table.nodup_keysWhere _ _, fun id => by simp [Table.mem_keysWhere]⟩

theorem listUnmigratedPhoneIds_ok {ids : List Nat} (listed : listUnmigratedPhoneIds newEpoch db = .ok ids) :
    ids.Nodup ∧ ∀ id, id ∈ ids ↔ ∃ row, db.phonePsks.lookup id = some row ∧ row.masterKeyEpoch < newEpoch := by
  simp only [listUnmigratedPhoneIds, bind_eq_ok, pure_eq_ok, Except.ok.injEq] at listed
  obtain ⟨-, -, rfl⟩ := listed
  exact ⟨Table.nodup_keysWhere _ _, fun id => by simp [Table.mem_keysWhere]⟩

theorem migrateNodePsk_ok :
    migrateNodePsk c nonce nodeId oldKey newKey newKeyId newEpoch db = .ok db' ↔
      newEpoch ≤ i64Max ∧ ∃ row psk, db.nodes.lookup nodeId = some row ∧
        decryptPsk c oldKey nodeId row.psk = .ok psk ∧
        { db with nodes := db.nodes.update nodeId (reencryptNode c nonce nodeId psk newKey newKeyId newEpoch) }
          = db' := by
  cases found : db.nodes.lookup nodeId with
  | none => simp [migrateNodePsk, bind_eq_ok, found]
  | some row =>
    cases reads : decryptPsk c oldKey nodeId row.psk <;> simp [migrateNodePsk, bind_eq_ok, epochFits_ok, found, reads]

theorem migratePhonePsk_ok :
    migratePhonePsk c nonce phoneId oldKey newKey newKeyId newEpoch db = .ok db' ↔
      newEpoch ≤ i64Max ∧ ∃ row psk, db.phonePsks.lookup phoneId = some row ∧
        decryptPhonePsk c oldKey phoneId row.psk = .ok psk ∧
        { db with
          phonePsks := db.phonePsks.update phoneId (reencryptPhone c nonce phoneId psk newKey newKeyId newEpoch) }
          = db' := by
  cases found : db.phonePsks.lookup phoneId with
  | none => simp [migratePhonePsk, bind_eq_ok, found]
  | some row =>
    cases reads : decryptPhonePsk c oldKey phoneId row.psk <;>
      simp [migratePhonePsk, bind_eq_ok, epochFits_ok, found, reads]

end Sonde.Gateway
