import Sonde.Gateway.Interleaving

namespace Sonde.Gateway
open Lib Machine

variable {Blob : Type}

inductive CrashEvent where
  | step (i : Inputs)
  | crash

variable (c : IdealCrypto Blob)

def Machine.after (m : Machine Blob) : CrashEvent → Machine Blob
  | .step i => m.step c i
  | .crash => m.crash

def Machine.run (m : Machine Blob) (events : List CrashEvent) : Machine Blob := events.foldl (after c) m

structure Inputs.Calm (i : Inputs) : Prop where
  storage : i.storageFault = none
  provider : i.providerFault = none

def CrashEvent.Calm : CrashEvent → Prop
  | .step i => i.Calm
  | .crash => True

structure Plan where
  oldKey : Bytes32
  newKey : Bytes32
  epoch : Nat
  ledger : Ledger
  seed : Bytes32

open Plan

inductive Stage where
  | before
  | migrating (phase : RotationPhase)
  | committed
  | provided
  | done

namespace Plan
variable (p : Plan)

def configEpoch : Stage → Nat
  | .before | .migrating _ => p.epoch
  | .committed | .provided | .done => p.epoch + 1

def providerKey : Stage → Bytes32
  | .before | .migrating _ | .committed => p.oldKey
  | .provided | .done => p.newKey

def seedKey : Stage → Bytes32
  | .before | .migrating _ => p.oldKey
  | .committed | .provided | .done => p.newKey

def rowKey (rowEpoch : Nat) : Bytes32 := if rowEpoch < p.epoch + 1 then p.oldKey else p.newKey

end Plan

def Stage.phase : Stage → Option RotationPhase
  | .before | .done => none
  | .migrating phase => some phase
  | .committed | .provided => some .committing

def Stage.Migrated : Stage → Prop
  | .before | .migrating .migratingPsks => False
  | _ => True

def Stage.Committed : Stage → Prop
  | .before | .migrating _ => False
  | _ => True

def PendingIs (p : Plan) (pending : Option (PendingRotationRecord Blob)) :
    Option RotationPhase → Prop
  | none => pending = none
  | some phase =>
    p.epoch + 1 ≤ i64Max ∧ ∃ nonce, pending =
      some ⟨encryptPendingNewKey c p.oldKey nonce p.newKey, c.sha256 p.newKey, p.epoch + 1, phase⟩

def SeedReads (key seed : Bytes32) (identity : Option (IdentityRow Blob)) : Prop :=
  ∃ row, identity = some row ∧ decryptSeed c key row.encryptedSeed row.gatewayId = .ok seed

def RewrapReads (key seed : Bytes32) (identity : Option (IdentityRow Blob)) : Prop :=
  ∃ row new, identity = some row ∧ row.encryptedSeedNew = some new ∧ decryptSeed c key new row.gatewayId = .ok seed

structure Durable (c : IdealCrypto Blob) (p : Plan) (stage : Stage) (db : Db Blob) (provider : Bytes32) : Prop where
  provider : provider = p.providerKey stage
  config : db.masterKeyEpoch = some (p.configEpoch stage)
  configId : stage.Committed → db.masterKeyId = some (c.sha256 p.newKey)
  pending : PendingIs c p db.pendingRotation stage.phase
  nodes : db.nodes.ForAll fun nodeId row => NodeReads c (p.rowKey row.masterKeyEpoch) p.ledger nodeId row
  phones : db.phonePsks.ForAll fun phoneId row => PhoneReads c (p.rowKey row.masterKeyEpoch) p.ledger phoneId row
  nodeKeyIds : db.nodes.ForAll fun _ row => p.epoch + 1 ≤ row.masterKeyEpoch → row.masterKeyId = some (c.sha256 p.newKey)
  phoneKeyIds : db.phonePsks.ForAll fun _ row =>
    p.epoch + 1 ≤ row.masterKeyEpoch → row.masterKeyId = some (c.sha256 p.newKey)
  nodeEpochs : db.nodes.ForAll fun _ row => row.masterKeyEpoch ≤ p.epoch + 1
  phoneEpochs : db.phonePsks.ForAll fun _ row => row.masterKeyEpoch ≤ p.epoch + 1
  unmigrated : stage = .before → (db.nodes.ForAll fun _ row => row.masterKeyEpoch < p.epoch + 1) ∧
    db.phonePsks.ForAll fun _ row => row.masterKeyEpoch < p.epoch + 1
  migrated : stage.Migrated → (db.nodes.ForAll fun _ row => p.epoch + 1 ≤ row.masterKeyEpoch) ∧
    db.phonePsks.ForAll fun _ row => p.epoch + 1 ≤ row.masterKeyEpoch
  nodeIds : ∀ nodeId, (db.nodes.lookup nodeId).isSome = (p.ledger.nodes nodeId).isSome
  phoneIds : ∀ phoneId, (db.phonePsks.lookup phoneId).isSome = (p.ledger.phones phoneId).isSome
  seed : SeedReads c (p.seedKey stage) p.seed db.identity
  rewrapped : stage = .migrating .committing → RewrapReads c p.newKey p.seed db.identity

def Plan.job (p : Plan) (resumed : Bool) : Job := ⟨p.oldKey, p.newKey, c.sha256 p.newKey, p.epoch + 1, resumed⟩

def RotationKnows (p : Plan) (resumed : Bool) (stage : Stage) (s : Store Blob) :
    RotationPc → Prop
  | .writePending => stage = .before ∧ s.masterKey = p.oldKey ∧ resumed = false
  | .setRotationKey | .readMigrating => ∃ phase, stage = .migrating phase
  | .listNodes => stage = .migrating .migratingPsks
  | .migrateNodes todo =>
    stage = .migrating .migratingPsks ∧ todo.Nodup ∧
    ∀ nodeId, nodeId ∈ todo ↔ ∃ row, s.db.nodes.lookup nodeId = some row ∧ row.masterKeyEpoch < p.epoch + 1
  | .migratePhones todo =>
    stage = .migrating .migratingPsks ∧ todo.Nodup ∧
    (s.db.nodes.ForAll fun _ row => p.epoch + 1 ≤ row.masterKeyEpoch) ∧
    ∀ phoneId, phoneId ∈ todo ↔ ∃ row, s.db.phonePsks.lookup phoneId = some row ∧ row.masterKeyEpoch < p.epoch + 1
  | .readRewrapping => stage = .migrating .rewrappingIdentity ∨ stage = .migrating .committing
  | .rewrap => stage = .migrating .rewrappingIdentity
  | .setCommitting => stage = .migrating .rewrappingIdentity ∧ RewrapReads c p.newKey p.seed s.db.identity
  | .readCommitting | .commit => stage = .migrating .committing
  | .writeProvider => stage = .committed
  | .deletePending => stage = .provided
  | .swapKey => stage = .done
  | .clearKey => stage = .done ∧ s.masterKey = p.newKey

def TaskKnows (p : Plan) (stage : Stage) (s : Store Blob) : Task Blob → Prop
  | .off => True
  | .migrateLegacy | .openStore | .readPending => s.masterKey = p.providerKey stage
  | .readEpoch pending => s.masterKey = p.providerKey stage ∧ s.db.pendingRotation = some pending
  | .deleteStale => False
  | .loadProvider pending =>
    s.masterKey = p.providerKey stage ∧ s.db.pendingRotation = some pending ∧ (stage = .committed ∨ stage = .provided)
  | .swapStale _ key => stage = .provided ∧ key = p.newKey
  | .deleteMarker _ => stage = .provided ∧ s.masterKey = p.newKey
  | .writeRecovered _ key => stage = .committed ∧ key = p.newKey
  | .deleteRecovered _ key => stage = .provided ∧ key = p.newKey
  | .swapRecovered _ key => stage = .done ∧ key = p.newKey
  | .rotating job pc => job = p.job c job.resumed ∧ RotationKnows c p job.resumed stage s pc
  | .rotated (.ok _) => stage = .done ∧ s.masterKey = p.newKey
  | .rotated (.error _) => stage = .before ∧ s.masterKey = p.oldKey
  | .resumed (.ok _) => (stage = .before ∨ stage = .done) ∧ s.masterKey = p.providerKey stage
  | .resumed (.error _) | .stopped _ => False

/-! ## Opening -/

section
variable {c : IdealCrypto Blob} {p : Plan} {stage : Stage} {db : Db Blob} {provider : Bytes32}
    {key psk : Bytes32} {nodeId : String}

theorem decryptPsk_sealed {stored : Stored Blob}
    (reads : decryptPsk c key nodeId stored = .ok psk) : ∃ blob, stored = .sealed blob := by
  cases stored with
  | sealed blob => exact ⟨blob, rfl⟩
  | plain _ | malformed _ => simp [decryptPsk, decryptBlob] at reads

theorem migrateLegacyPsks_eq {nonces : String → BitVec 96} (durable : Durable c p stage db provider) :
    migrateLegacyPsks c nonces key db = db := by
  have same : db.nodes.mapRows (migrateLegacyRow c nonces key) = db.nodes := by
    apply Table.mapRows_eq_self
    intro nodeId row found
    obtain ⟨psk, -, reads⟩ := durable.nodes nodeId row found
    obtain ⟨blob, is_sealed⟩ := decryptPsk_sealed reads
    simp [migrateLegacyRow, is_sealed]
  unfold migrateLegacyPsks
  rw [same]

theorem validateMasterKey_ok {pendingNewKey : Option Bytes32}
    (reads : db.nodes.ForAll fun nodeId row => ∃ psk, decryptPsk c key nodeId row.psk = .ok psk ∨
      ∃ newKey, pendingNewKey = some newKey ∧ decryptPsk c newKey nodeId row.psk = .ok psk) :
    validateMasterKey c key pendingNewKey db = .ok () := by
  have wellFormed : (db.nodes.entries.filter fun e => e.2.psk.isMalformed) = [] := by
    rw [List.filter_eq_nil_iff]
    rintro ⟨nodeId, row⟩ member
    obtain ⟨psk, plain | ⟨newKey, -, plain⟩⟩ := reads nodeId row (AList.mem_lookup_iff.mpr member) <;>
    · obtain ⟨blob, is_sealed⟩ := decryptPsk_sealed plain
      simp [is_sealed, Stored.isMalformed]
  unfold validateMasterKey
  simp only [wellFormed, List.length_nil, lt_irrefl, if_false]
  cases first : db.nodes.entries.find? fun e => e.2.psk.isSealed with
  | none => rfl
  | some e =>
    obtain ⟨nodeId, row⟩ := e
    have found := AList.mem_lookup_iff.mpr (List.mem_of_find?_eq_some first)
    cases current : decryptPsk c key nodeId row.psk with
    | ok psk => simp [current]
    | error e =>
      obtain ⟨psk, plain | ⟨newKey, rfl, plain⟩⟩ := reads nodeId row found
      · cases current.symm.trans plain
      · simp [current, plain]

theorem loadPendingRotationKey_ok (durable : Durable c p stage db provider) :
    ∃ key, loadPendingRotationKey c (p.providerKey stage) db = .ok key ∧
      (stage = .before ∨ stage = .provided ∨ stage = .done ∨ key = some p.newKey) := by
  have pending := durable.pending
  cases stage with
  | before | done => exact ⟨none, by simp [loadPendingRotationKey, show db.pendingRotation = none from pending], by simp⟩
  | migrating _ | committed =>
    obtain ⟨-, nonce, stored⟩ := pending
    exact ⟨some p.newKey, by simp [loadPendingRotationKey, stored, encryptPendingNewKey, providerKey], by simp⟩
  | provided =>
    obtain ⟨-, nonce, stored⟩ := pending
    have config : getMasterKeyEpoch db = p.epoch + 1 := by
      simp [getMasterKeyEpoch, durable.config, configEpoch]
    simp only [loadPendingRotationKey, stored, encryptPendingNewKey, config, if_true]
    cases c.decrypt (p.providerKey .provided) pendingRotationAad
        (c.encrypt p.oldKey nonce pendingRotationAad p.newKey) <;> simp

theorem openStore_ok (durable : Durable c p stage db provider) :
    ∃ state, openStore c (p.providerKey stage) db = .ok ⟨db, p.providerKey stage, state⟩ := by
  obtain ⟨key, loaded, known⟩ := loadPendingRotationKey_ok durable
  have valid : validateMasterKey c (p.providerKey stage) key db = .ok () := by
    apply validateMasterKey_ok
    intro nodeId row found
    obtain ⟨psk, -, reads⟩ := durable.nodes nodeId row found
    refine ⟨psk, ?_⟩
    rcases known with rfl | rfl | rfl | rfl
    · left
      simpa [rowKey, (durable.unmigrated rfl).1 nodeId row found, providerKey] using reads
    · left
      simpa [rowKey, Nat.not_lt.mpr ((durable.migrated trivial).1 nodeId row found), providerKey] using reads
    · left
      simpa [rowKey, Nat.not_lt.mpr ((durable.migrated trivial).1 nodeId row found), providerKey] using reads
    · unfold rowKey at reads
      split_ifs at reads with old
      · cases stage with
        | before | migrating phase | committed => exact .inl reads
        | provided | done =>
          exact absurd old (Nat.not_lt.mpr ((durable.migrated trivial).1 nodeId row found))
      · exact .inr ⟨p.newKey, rfl, reads⟩
  simp [openStore, bind_eq_ok, loaded, valid]

theorem migrateNode_durable {nonce : BitVec 96} (durable : Durable c p (.migrating .migratingPsks) db provider)
    (known : p.ledger.nodes nodeId = some psk) : Durable c p (.migrating .migratingPsks) { db with
      nodes := db.nodes.update nodeId (reencryptNode c nonce nodeId psk p.newKey (c.sha256 p.newKey) (p.epoch + 1)) }
      provider :=
  { durable with
    nodes := durable.nodes.update (fun _ _ => ⟨psk, known, by simp [reencryptNode, rowKey]⟩) fun _ _ _ reads => reads
    nodeKeyIds := durable.nodeKeyIds.update (fun _ _ _ => rfl) fun _ _ _ same => same
    nodeEpochs := durable.nodeEpochs.update (fun _ _ => by simp [reencryptNode]) fun _ _ _ le => le
    unmigrated := by simp
    migrated := False.elim
    nodeIds := fun other => (Table.isSome_lookup_update ..).trans (durable.nodeIds other) }

theorem migratePhone_durable {phoneId : Nat} {nonce : BitVec 96}
    (durable : Durable c p (.migrating .migratingPsks) db provider) (known : p.ledger.phones phoneId = some psk) :
    Durable c p (.migrating .migratingPsks) { db with
      phonePsks := db.phonePsks.update phoneId
        (reencryptPhone c nonce phoneId psk p.newKey (c.sha256 p.newKey) (p.epoch + 1)) } provider :=
  { durable with
    phones := durable.phones.update (fun _ _ => ⟨psk, known, by simp [reencryptPhone, rowKey]⟩) fun _ _ _ reads => reads
    phoneKeyIds := durable.phoneKeyIds.update (fun _ _ _ => rfl) fun _ _ _ same => same
    phoneEpochs := durable.phoneEpochs.update (fun _ _ => by simp [reencryptPhone]) fun _ _ _ le => le
    unmigrated := by simp
    migrated := False.elim
    phoneIds := fun other => (Table.isSome_lookup_update ..).trans (durable.phoneIds other) }

/-! ## One step of the rotation -/

def Recoverable (c : IdealCrypto Blob) (p : Plan) (stage : Stage) (m : Machine Blob) : Prop :=
  Durable c p stage m.store.db m.provider ∧ TaskKnows c p stage m.store m.task

def Follows (c : IdealCrypto Blob) (p : Plan) (stage : Stage) (m : Machine Blob) : Prop :=
  ∃ stage', (stage' = .before → stage = .before) ∧ Recoverable c p stage' m

variable {i : Inputs} {m : Machine Blob} {resumed : Bool}

theorem provided_durable (durable : Durable c p .committed db provider) : Durable c p .provided db p.newKey :=
  { durable with
    provider := rfl
    unmigrated := by simp
    migrated := fun _ => durable.migrated trivial
    rewrapped := by simp }

theorem done_durable (durable : Durable c p .provided db provider) :
    Durable c p .done (deletePendingRotation db) provider :=
  { durable with
    pending := rfl
    unmigrated := by simp
    migrated := fun _ => durable.migrated trivial
    rewrapped := by simp }

theorem decryptPendingNewKey_other {key' : Bytes32} (nonce : BitVec 96) (newKey : Bytes32) (different : key' ≠ key) :
    ∃ e, decryptPendingNewKey c key' (encryptPendingNewKey c key nonce newKey) = .error e := by
  simp [decryptPendingNewKey, encryptPendingNewKey, decryptBlob, c.decrypt_other _ _ nonce _ newKey different]

section
variable (calm : i.Calm)
include calm

theorem call_calm {α : Type} {what : String} {a : α} : i.call what (.ok a) = .ok a := by
  simp [Inputs.call, calm.storage]

theorem writeDb_follows {stage' : Stage} {what : String} {next : RotationPc}  (later : stage' = .before → stage = .before) (durable : Durable c p stage' db m.provider)
    (knows : RotationKnows c p resumed stage' { m.store with db := db } next) :
    Follows c p stage (m.writeDb (p.job c resumed) (i.call what (.ok db)) next) := by
  rw [call_calm calm]
  exact ⟨stage', later, durable, rfl, knows⟩

theorem readPhase_follows {disappeared : String} {phase current : RotationPhase} {run skip : RotationPc}
    (durable : Durable c p (.migrating current) m.store.db m.provider)
    (knows : RotationKnows c p resumed (.migrating current) m.store (if current = phase then run else skip)) :
    Follows c p (.migrating current) (m.readPhase i (p.job c resumed) disappeared phase run skip) := by
  obtain ⟨-, nonce, stored⟩ := durable.pending
  simp only [readPhase, call_calm calm, stored]
  exact ⟨_, id, durable, rfl, knows⟩

theorem writePending_follows (durable : Durable c p .before m.store.db m.provider)
    (memory : m.store.masterKey = p.oldKey) : Follows c p .before (m.rotationStep c i (p.job c false) .writePending) := by
  have absent : m.store.db.pendingRotation = none := durable.pending
  by_cases fits : p.epoch + 1 ≤ i64Max
  · have written : writePendingRotation c i.nonce p.newKey (c.sha256 p.newKey) (p.epoch + 1) m.store = .ok _ :=
      writePendingRotation_ok.mpr ⟨fits, absent, rfl⟩
    simp only [rotationStep, job, written, call_calm calm]
    refine ⟨.migrating .migratingPsks, by simp, { durable with
      pending := ⟨fits, i.nonce, by simp [memory, goto]⟩
      unmigrated := by simp
      rewrapped := by simp }, rfl, _, rfl⟩
  · have refused : ∃ e, writePendingRotation c i.nonce p.newKey (c.sha256 p.newKey) (p.epoch + 1) m.store = .error e := by
      cases result : writePendingRotation c i.nonce p.newKey (c.sha256 p.newKey) (p.epoch + 1) m.store with
      | error e => exact ⟨e, rfl⟩
      | ok s => exact absurd (writePendingRotation_ok.mp result).1 fits
    obtain ⟨e, refused⟩ := refused
    simp only [rotationStep, job, refused, Inputs.call, calm.storage]
    exact ⟨.before, id, durable, rfl, memory⟩

section
variable (durable : Durable c p (.migrating .migratingPsks) m.store.db m.provider)
include durable

theorem listNodes_follows : Follows c p (.migrating .migratingPsks) (m.rotationStep c i (p.job c resumed) .listNodes) := by
  have fits : epochFits (p.epoch + 1) = .ok () := epochFits_ok.mpr durable.pending.1
  cases listed : listUnmigratedNodeIds (p.epoch + 1) m.store.db with
  | error e => simp [listUnmigratedNodeIds, fits, bind, Except.bind] at listed
  | ok todo =>
    simp only [rotationStep, job, listed, call_calm calm]
    exact ⟨_, id, durable, rfl, rfl, listUnmigratedNodeIds_ok listed⟩

theorem migrateNode_follows {todo : List String}
    (knows : RotationKnows c p resumed (.migrating .migratingPsks) m.store (.migrateNodes (nodeId :: todo))) :
    Follows c p (.migrating .migratingPsks) (m.rotationStep c i (p.job c resumed) (.migrateNodes (nodeId :: todo))) := by
  obtain ⟨-, distinct, unmigrated⟩ := knows
  obtain ⟨fresh, distinct⟩ := List.nodup_cons.mp distinct
  obtain ⟨row, found, old⟩ := (unmigrated nodeId).mp List.mem_cons_self
  obtain ⟨psk, known, reads⟩ := durable.nodes nodeId row found
  rw [rowKey, if_pos old] at reads
  have migrated : migrateNodePsk c i.nonce nodeId p.oldKey p.newKey (c.sha256 p.newKey) (p.epoch + 1) m.store.db =
      .ok _ := migrateNodePsk_ok.mpr ⟨durable.pending.1, row, psk, found, reads, rfl⟩
  simp only [rotationStep, job, migrated]
  refine writeDb_follows calm id (migrateNode_durable durable known) ⟨rfl, distinct, fun other => ?_⟩
  by_cases here : other = nodeId
  · subst here
    simp [fresh, found, reencryptNode]
  · simpa [here] using unmigrated other

theorem listPhones_follows (knows : RotationKnows c p resumed (.migrating .migratingPsks) m.store (.migrateNodes [])) :
    Follows c p (.migrating .migratingPsks) (m.rotationStep c i (p.job c resumed) (.migrateNodes [])) := by
  obtain ⟨-, -, unmigrated⟩ := knows
  have fits : epochFits (p.epoch + 1) = .ok () := epochFits_ok.mpr durable.pending.1
  cases listed : listUnmigratedPhoneIds (p.epoch + 1) m.store.db with
  | error e => simp [listUnmigratedPhoneIds, fits, bind, Except.bind] at listed
  | ok todo =>
    obtain ⟨distinct, unmigratedPhones⟩ := listUnmigratedPhoneIds_ok listed
    simp only [rotationStep, job, listed, call_calm calm]
    refine ⟨_, id, durable, rfl, rfl, distinct, ?_, unmigratedPhones⟩
    intro nodeId row found
    by_contra old
    simpa using (unmigrated nodeId).mpr ⟨row, found, Nat.not_le.mp old⟩

theorem migratePhone_follows {phoneId : Nat} {todo : List Nat}
    (knows : RotationKnows c p resumed (.migrating .migratingPsks) m.store (.migratePhones (phoneId :: todo))) :
    Follows c p (.migrating .migratingPsks) (m.rotationStep c i (p.job c resumed) (.migratePhones (phoneId :: todo))) := by
  obtain ⟨-, distinct, nodesDone, unmigrated⟩ := knows
  obtain ⟨fresh, distinct⟩ := List.nodup_cons.mp distinct
  obtain ⟨row, found, old⟩ := (unmigrated phoneId).mp List.mem_cons_self
  obtain ⟨psk, known, reads⟩ := durable.phones phoneId row found
  rw [rowKey, if_pos old] at reads
  have migrated : migratePhonePsk c i.nonce phoneId p.oldKey p.newKey (c.sha256 p.newKey) (p.epoch + 1) m.store.db =
      .ok _ := migratePhonePsk_ok.mpr ⟨durable.pending.1, row, psk, found, reads, rfl⟩
  simp only [rotationStep, job, migrated]
  refine writeDb_follows calm id (migratePhone_durable durable known) ⟨rfl, distinct, nodesDone, fun other => ?_⟩
  by_cases here : other = phoneId
  · subst here
    simp [fresh, found, reencryptPhone]
  · simpa [here] using unmigrated other

theorem setRewrapping_follows (knows : RotationKnows c p resumed (.migrating .migratingPsks) m.store (.migratePhones [])) :
    Follows c p (.migrating .migratingPsks) (m.rotationStep c i (p.job c resumed) (.migratePhones [])) := by
  obtain ⟨-, -, nodesDone, unmigrated⟩ := knows
  obtain ⟨fits, nonce, stored⟩ := durable.pending
  have updated : updateRotationPhase .rewrappingIdentity m.store.db = .ok _ := updateRotationPhase_ok.mpr ⟨_, stored, rfl⟩
  simp only [rotationStep, updated, call_calm calm]
  refine ⟨.migrating .rewrappingIdentity, by simp, { durable with
    pending := ⟨fits, nonce, rfl⟩
    unmigrated := by simp
    migrated := fun _ => ⟨nodesDone, ?_⟩
    rewrapped := by simp }, rfl, .inl rfl⟩
  intro phoneId row found
  by_contra old
  simpa using (unmigrated phoneId).mpr ⟨row, found, Nat.not_le.mp old⟩

end

variable (durable : Durable c p (.migrating .rewrappingIdentity) m.store.db m.provider)

include durable in
theorem rewrap_follows : Follows c p (.migrating .rewrappingIdentity) (m.rotationStep c i (p.job c resumed) .rewrap) := by
  obtain ⟨row, found, reads⟩ := durable.seed
  have rewrapped : rewrapIdentitySeed c i.nonce p.oldKey p.newKey m.store.db = .ok _ :=
    rewrapIdentitySeed_ok.mpr ⟨row, p.seed, found, reads, rfl⟩
  simp only [rotationStep, job, rewrapped]
  refine writeDb_follows calm id { durable with
    seed := ⟨_, rfl, reads⟩
    rewrapped := by simp } ⟨rfl, _, _, rfl, rfl, by simp⟩

include durable in
theorem setCommitting_follows (rewrapped : RewrapReads c p.newKey p.seed m.store.db.identity) :
    Follows c p (.migrating .rewrappingIdentity) (m.rotationStep c i (p.job c resumed) .setCommitting) := by
  obtain ⟨fits, nonce, stored⟩ := durable.pending
  have updated : updateRotationPhase .committing m.store.db = .ok _ := updateRotationPhase_ok.mpr ⟨_, stored, rfl⟩
  simp only [rotationStep, updated, call_calm calm]
  exact ⟨.migrating .committing, by simp, { durable with
    pending := ⟨fits, nonce, rfl⟩
    unmigrated := by simp
    rewrapped := fun _ => rewrapped }, rfl, rfl⟩

theorem commit_follows (durable : Durable c p (.migrating .committing) m.store.db m.provider) :
    Follows c p (.migrating .committing) (m.rotationStep c i (p.job c resumed) .commit) := by
  obtain ⟨row, new, found, rewrapped, reads⟩ := durable.rewrapped rfl
  have committed : commitRotation i.code (c.sha256 p.newKey) (p.epoch + 1) m.store.db = .ok _ :=
    commitRotation_ok.mpr ⟨row, new, found, rewrapped, rfl⟩
  simp only [rotationStep, job, committed, call_calm calm]
  exact ⟨.committed, by simp, { durable with
    config := rfl
    configId := fun _ => rfl
    unmigrated := by simp
    seed := ⟨_, rfl, reads⟩
    rewrapped := by simp }, rfl, rfl⟩

theorem rotationStep_follows {pc : RotationPc} (durable : Durable c p stage m.store.db m.provider)
    (knows : RotationKnows c p resumed stage m.store pc) :
    Follows c p stage (m.rotationStep c i (p.job c resumed) pc) := by
  cases pc with
  | writePending =>
    obtain ⟨rfl, memory, rfl⟩ := knows
    exact writePending_follows calm durable memory
  | setRotationKey => exact ⟨stage, id, durable, rfl, knows⟩
  | readMigrating =>
    obtain ⟨phase, rfl⟩ := knows
    refine readPhase_follows calm durable ?_
    cases phase <;> simp [RotationKnows]
  | listNodes =>
    cases knows
    exact listNodes_follows calm durable
  | migrateNodes todo =>
    obtain ⟨rfl, -, -⟩ := id knows
    cases todo with
    | cons nodeId todo => exact migrateNode_follows calm durable knows
    | nil => exact listPhones_follows calm durable knows
  | migratePhones todo =>
    obtain ⟨rfl, -, -⟩ := id knows
    cases todo with
    | cons phoneId todo => exact migratePhone_follows calm durable knows
    | nil => exact setRewrapping_follows calm durable knows
  | readRewrapping => rcases knows with rfl | rfl <;> exact readPhase_follows calm durable rfl
  | rewrap =>
    cases knows
    exact rewrap_follows calm durable
  | setCommitting =>
    obtain ⟨rfl, rewrapped⟩ := knows
    exact setCommitting_follows calm durable rewrapped
  | readCommitting =>
    cases knows
    exact readPhase_follows calm durable rfl
  | commit =>
    cases knows
    exact commit_follows calm durable
  | writeProvider =>
    cases knows
    simp only [rotationStep, Inputs.provider, calm.provider]
    exact ⟨.provided, by simp, provided_durable durable, rfl, rfl⟩
  | deletePending =>
    cases knows
    simp only [rotationStep, calm.storage]
    exact ⟨.done, by simp, done_durable durable, rfl, rfl⟩
  | swapKey =>
    cases knows
    exact ⟨.done, id, durable, rfl, rfl, rfl⟩
  | clearKey =>
    obtain ⟨rfl, memory⟩ := knows
    refine ⟨.done, id, durable, ?_⟩
    cases resumed with
    | false => exact ⟨rfl, memory⟩
    | true => exact ⟨.inr rfl, memory⟩

/-! ## One step of a start -/

theorem readEpoch_follows {pending : PendingRotationRecord Blob} (task : m.task = .readEpoch pending)
    (durable : Durable c p stage m.store.db m.provider) (memory : m.store.masterKey = p.providerKey stage)
    (found : m.store.db.pendingRotation = some pending) : Follows c p stage (m.step c i) := by
  have stored := durable.pending
  have config : getMasterKeyEpoch m.store.db = p.configEpoch stage := by simp [getMasterKeyEpoch, durable.config]
  simp only [step, task, call_calm calm, config]
  cases stage with
  | before | done => simp [Stage.phase, PendingIs, found] at stored
  | migrating phase =>
    obtain ⟨-, nonce, same⟩ := stored
    obtain rfl := Option.some.inj (found.symm.trans same)
    have memory : m.store.masterKey = p.oldKey := memory
    simp only [configEpoch, memory, decryptPendingNewKey_encryptPendingNewKey]
    rw [if_neg (by omega), if_neg (by omega)]
    exact ⟨_, id, durable, rfl, phase, rfl⟩
  | committed | provided =>
    obtain ⟨-, nonce, same⟩ := stored
    obtain rfl := Option.some.inj (found.symm.trans same)
    simp only [configEpoch, lt_irrefl, if_false, if_true]
    exact ⟨_, id, durable, memory, found, by simp⟩

theorem loadProvider_follows {pending : PendingRotationRecord Blob}  (task : m.task = .loadProvider pending) (durable : Durable c p stage m.store.db m.provider)
    (memory : m.store.masterKey = p.providerKey stage) (found : m.store.db.pendingRotation = some pending)
    (after : stage = .committed ∨ stage = .provided) : Follows c p stage (m.step c i) := by
  have provider := durable.provider
  have stored := durable.pending
  simp only [step, task, Inputs.provider, calm.provider]
  have sealed : ∃ nonce, pending = ⟨encryptPendingNewKey c p.oldKey nonce p.newKey, c.sha256 p.newKey, p.epoch + 1, .committing⟩ := by
    rcases after with rfl | rfl <;> exact stored.2.imp fun nonce same => Option.some.inj (found.symm.trans same)
  obtain ⟨nonce, rfl⟩ := sealed
  rcases after with rfl | rfl
  · have memory : m.store.masterKey = p.oldKey := memory
    simp only [memory, decryptPendingNewKey_encryptPendingNewKey]
    split_ifs with equal
    · exact ⟨.provided, by simp, equal ▸ provided_durable durable, rfl, rfl⟩
    · exact ⟨.committed, id, durable, rfl, rfl⟩
  · have memory : m.store.masterKey = p.newKey := memory
    have durable : Durable c p .provided m.store.db p.newKey := { durable with provider := rfl }
    by_cases equal : p.newKey = p.oldKey
    · simp only [memory, ← equal, decryptPendingNewKey_encryptPendingNewKey, provider, providerKey, if_true]
      exact ⟨.provided, id, durable, rfl, rfl⟩
    · obtain ⟨e, refused⟩ := decryptPendingNewKey_other (c := c) nonce p.newKey equal
      simp only [memory, refused, provider]
      exact ⟨.provided, id, durable, rfl, rfl⟩

theorem step_follows (recoverable : Recoverable c p stage m) : Follows c p stage (m.step c i) := by
  obtain ⟨durable, knows⟩ := recoverable
  generalize task : m.task = current at knows
  cases current with
  | off =>
    simp only [step, task, calm.provider]
    exact ⟨stage, id, durable, durable.provider⟩
  | migrateLegacy =>
    simp only [step, task, calm.storage, migrateLegacyPsks_eq durable]
    exact ⟨stage, id, durable, knows⟩
  | openStore =>
    have memory : m.store.masterKey = p.providerKey stage := knows
    obtain ⟨state, opened⟩ := openStore_ok durable
    simp only [step, task, calm.storage, memory, opened]
    exact ⟨stage, id, durable, rfl⟩
  | readPending =>
    simp only [step, task, call_calm calm]
    cases found : m.store.db.pendingRotation with
    | none =>
      refine ⟨stage, id, durable, ?_, knows⟩
      have stored := durable.pending
      cases stage with
      | before => exact .inl rfl
      | done => exact .inr rfl
      | _ => simp [Stage.phase, PendingIs, found] at stored
    | some pending => exact ⟨stage, id, durable, knows, found⟩
  | readEpoch pending =>
    exact readEpoch_follows calm task durable knows.1 knows.2
  | deleteStale =>
    exact knows.elim
  | loadProvider pending =>
    exact loadProvider_follows calm task durable knows.1 knows.2.1 knows.2.2
  | swapStale pending key =>
    obtain ⟨rfl, rfl⟩ := knows
    simp only [step, task]
    exact ⟨.provided, id, durable, rfl, rfl⟩
  | deleteMarker pending =>
    obtain ⟨rfl, memory⟩ := knows
    simp only [step, task, deleteThen, call_calm calm]
    exact ⟨.done, by simp, done_durable durable, .inr rfl, memory⟩
  | writeRecovered pending key =>
    obtain ⟨rfl, rfl⟩ := knows
    simp only [step, task, Inputs.provider, calm.provider]
    exact ⟨.provided, by simp, provided_durable durable, rfl, rfl⟩
  | deleteRecovered pending key =>
    obtain ⟨rfl, rfl⟩ := knows
    simp only [step, task, deleteThen, call_calm calm]
    exact ⟨.done, by simp, done_durable durable, rfl, rfl⟩
  | swapRecovered pending key =>
    obtain ⟨rfl, rfl⟩ := knows
    simp only [step, task]
    exact ⟨.done, id, durable, .inr rfl, rfl⟩
  | rotating job pc =>
    obtain ⟨job_eq, knows⟩ := knows
    simp only [step, task]
    rw [job_eq]
    exact rotationStep_follows calm durable knows
  | rotated _ | resumed _ | stopped _ =>
    rw [← task] at knows
    simp only [step, task]
    exact ⟨stage, id, durable, knows⟩

end

/-! ## Every start comes to an end -/

def RotationPc.rank : RotationPc → Nat × Nat
  | .writePending => (21, 0)
  | .setRotationKey => (20, 0)
  | .readMigrating => (19, 0)
  | .listNodes => (18, 0)
  | .migrateNodes todo => (17, todo.length)
  | .migratePhones todo => (16, todo.length)
  | .readRewrapping => (15, 0)
  | .rewrap => (14, 0)
  | .setCommitting => (13, 0)
  | .readCommitting => (12, 0)
  | .commit => (11, 0)
  | .writeProvider => (10, 0)
  | .deletePending => (9, 0)
  | .swapKey => (8, 0)
  | .clearKey => (7, 0)

def Task.rank : Task Blob → Nat × Nat
  | .off => (30, 0)
  | .migrateLegacy => (29, 0)
  | .openStore => (28, 0)
  | .readPending => (27, 0)
  | .readEpoch _ => (26, 0)
  | .deleteStale | .loadProvider _ => (25, 0)
  | .swapStale _ _ | .writeRecovered _ _ => (24, 0)
  | .deleteMarker _ | .deleteRecovered _ _ => (23, 0)
  | .swapRecovered _ _ => (22, 0)
  | .rotating _ pc => pc.rank
  | .rotated _ | .resumed _ | .stopped _ => (0, 0)

def Task.Over : Task Blob → Prop
  | .rotated _ | .resumed _ | .stopped _ => True
  | _ => False

variable (job : Job)

@[simp] theorem returned_rank (result : Except String Unit) : (job.returned result : Task Blob).rank = (0, 0) := by
  unfold Job.returned
  split <;> rfl

@[simp] theorem fail_rank (message : String) : (m.fail job message).task.rank = (0, 0) :=
  returned_rank job _

variable (pc : RotationPc)

@[simp] theorem goto_rank : (m.goto job pc).task.rank = pc.rank := rfl

theorem rotationStep_rank : Prod.Lex (· < ·) (· < ·) (m.rotationStep c i job pc).task.rank pc.rank := by
  rw [Prod.lex_def]
  cases pc with
  | migrateNodes todo | migratePhones todo =>
    cases todo <;> simp only [rotationStep, writeDb] <;> split <;> simp [RotationPc.rank]
  | _ =>
    simp only [rotationStep, writeDb, readPhase]
    repeat' split
    all_goals simp [RotationPc.rank]

theorem step_rank (running : ¬ m.task.Over) : Prod.Lex (· < ·) (· < ·) (m.step c i).task.rank m.task.rank := by
  cases task : m.task with
  | rotating job pc =>
    simp only [step, task]
    exact rotationStep_rank job pc
  | rotated _ | resumed _ | stopped _ => simp [task, Task.Over] at running
  | _ =>
    rw [Prod.lex_def]
    simp only [step, task, deleteThen]
    repeat' split
    all_goals simp [goto, resumeError, notify, Task.rank, RotationPc.rank]

def Task.Starting : Task Blob → Prop
  | .rotating job _ => job.resumed = true
  | .rotated _ => False
  | _ => True

theorem rotationStep_starting {job : Job} (resumed : job.resumed = true) : (m.rotationStep c i job pc).task.Starting := by
  have ended : ∀ result : Except String Unit, (job.returned result : Task Blob).Starting := by
    simp [Job.returned, resumed, Task.Starting]
  cases pc with
  | migrateNodes todo | migratePhones todo =>
    cases todo <;> simp only [rotationStep, writeDb] <;> split <;> first | exact ended _ | exact resumed
  | _ =>
    simp only [rotationStep, writeDb, readPhase]
    repeat' split
    all_goals first | exact ended _ | exact resumed

theorem step_starting (starting : m.task.Starting) : (m.step c i).task.Starting := by
  cases task : m.task with
  | rotating job pc =>
    rw [task] at starting
    simp only [step, task]
    exact rotationStep_starting pc starting
  | rotated result => simp [task, Task.Starting] at starting
  | _ =>
    simp only [step, task, deleteThen]
    repeat' split
    all_goals simp_all [goto, resumeError, notify, Task.Starting]

theorem start_resumes {stage : Stage} {m : Machine Blob} (inputs : Nat → Inputs) (calm : ∀ n, (inputs n).Calm)
    (recoverable : Recoverable c p stage m) (starting : m.task.Starting) :
    ∃ n outcome, (m.run c ((List.range n).map fun k => .step (inputs k))).task = .resumed (.ok outcome) := by
  by_cases ended : m.task.Over
  · refine ⟨0, ?_⟩
    have knows := recoverable.2
    cases task : m.task with
    | resumed result =>
      cases result with
      | ok outcome => exact ⟨outcome, task⟩
      | error message => simp [task, TaskKnows] at knows
    | stopped message => simp [task, TaskKnows] at knows
    | rotated result => simp [task, Task.Starting] at starting
    | _ => simp [task, Task.Over] at ended
  · have decrease := step_rank (c := c) (i := inputs 0) ended
    obtain ⟨stage', -, next⟩ := step_follows (calm 0) recoverable
    obtain ⟨n, outcome, reached⟩ :=
      start_resumes (fun n => inputs (n + 1)) (fun n => calm (n + 1)) next (step_starting starting)
    refine ⟨n + 1, outcome, ?_⟩
    simpa [run, after, List.range_succ_eq_map, Function.comp_def] using reached
termination_by m.task.rank
decreasing_by exact decrease

/-! ## Every run -/

theorem after_follows {event : CrashEvent} (calm : event.Calm) (recoverable : Recoverable c p stage m) :
    Follows c p stage (m.after c event) := by
  cases event with
  | step i => exact step_follows calm recoverable
  | crash => exact ⟨stage, id, recoverable.1, trivial⟩

theorem run_recoverable {events : List CrashEvent}
    (calm : ∀ event ∈ events, event.Calm) (recoverable : Recoverable c p stage m) :
    ∃ stage', Recoverable c p stage' (m.run c events) ∧
      (stage' = .before → stage = .before ∧ ∀ n, (m.run c (events.take n)).store.db.pendingRotation = none) := by
  induction events generalizing stage m with
  | nil =>
    refine ⟨stage, recoverable, ?_⟩
    rintro rfl
    exact ⟨rfl, fun n => by cases n <;> exact recoverable.1.pending⟩
  | cons event rest ih =>
    obtain ⟨middle, later, next⟩ := after_follows (calm event List.mem_cons_self) recoverable
    obtain ⟨last, reached, unwritten⟩ := ih (fun e member => calm e (List.mem_cons_of_mem _ member)) next
    refine ⟨last, reached, fun before => ?_⟩
    obtain ⟨atMiddle, tail⟩ := unwritten before
    obtain rfl := later atMiddle
    refine ⟨rfl, fun n => ?_⟩
    cases n with
    | zero => exact recoverable.1.pending
    | succ n => exact tail n

structure Under (c : IdealCrypto Blob) (p : Plan) (key : Bytes32) (epoch : Nat) (m : Machine Blob) : Prop where
  provider : m.provider = key
  memory : m.store.masterKey = key
  config : m.store.db.masterKeyEpoch = some epoch
  nodes : m.store.db.nodes.ForAll fun nodeId row => NodeReads c key p.ledger nodeId row
  phones : m.store.db.phonePsks.ForAll fun phoneId row => PhoneReads c key p.ledger phoneId row
  nodeIds : ∀ nodeId, (m.store.db.nodes.lookup nodeId).isSome = (p.ledger.nodes nodeId).isSome
  phoneIds : ∀ phoneId, (m.store.db.phonePsks.lookup phoneId).isSome = (p.ledger.phones phoneId).isSome
  seed : SeedReads c key p.seed m.store.db.identity

structure Stamped (epoch : Nat) (db : Db Blob) : Prop where
  nodes : db.nodes.ForAll fun _ row => row.masterKeyEpoch = epoch
  phones : db.phonePsks.ForAll fun _ row => row.masterKeyEpoch = epoch

structure NotAhead (epoch : Nat) (db : Db Blob) : Prop where
  nodes : db.nodes.ForAll fun _ row => row.masterKeyEpoch ≤ epoch
  phones : db.phonePsks.ForAll fun _ row => row.masterKeyEpoch ≤ epoch

theorem startRotation_recoverable (under : Under c p p.oldKey p.epoch m) (idle : m.store.db.pendingRotation = none)
    (notAhead : NotAhead p.epoch m.store.db) : Recoverable c p .before (m.startRotation c p.newKey (p.epoch + 1)) := by
  have old : ∀ {rowEpoch}, rowEpoch ≤ p.epoch → p.rowKey rowEpoch = p.oldKey := by
    intro rowEpoch le
    rw [rowKey, if_pos (Nat.lt_succ_of_le le)]
  refine ⟨{
    provider := under.provider
    config := under.config
    configId := False.elim
    pending := idle
    nodes := fun nodeId row found => by
      simpa [old (notAhead.nodes nodeId row found)] using under.nodes nodeId row found
    phones := fun phoneId row found => by
      simpa [old (notAhead.phones phoneId row found)] using under.phones phoneId row found
    nodeKeyIds := notAhead.nodes.mono fun _ _ le ahead => absurd ahead (Nat.not_le.mpr (Nat.lt_succ_of_le le))
    phoneKeyIds := notAhead.phones.mono fun _ _ le ahead => absurd ahead (Nat.not_le.mpr (Nat.lt_succ_of_le le))
    nodeEpochs := notAhead.nodes.mono fun _ _ le => Nat.le_succ_of_le le
    phoneEpochs := notAhead.phones.mono fun _ _ le => Nat.le_succ_of_le le
    unmigrated := fun _ => ⟨notAhead.nodes.mono fun _ _ le => Nat.lt_succ_of_le le,
      notAhead.phones.mono fun _ _ le => Nat.lt_succ_of_le le⟩
    migrated := False.elim
    nodeIds := under.nodeIds
    phoneIds := under.phoneIds
    seed := under.seed
    rewrapped := by simp }, ?_, rfl, under.memory, rfl⟩
  simp [job, under.memory]

theorem Durable.under (durable : Durable c p stage m.store.db m.provider)
    (memory : m.store.masterKey = p.providerKey stage) (agree : p.seedKey stage = p.providerKey stage)
    (nodes : m.store.db.nodes.ForAll fun _ row => p.rowKey row.masterKeyEpoch = p.providerKey stage)
    (phones : m.store.db.phonePsks.ForAll fun _ row => p.rowKey row.masterKeyEpoch = p.providerKey stage) :
    Under c p (p.providerKey stage) (p.configEpoch stage) m where
  provider := durable.provider
  memory := memory
  config := durable.config
  nodes nodeId row found := nodes nodeId row found ▸ durable.nodes nodeId row found
  phones phoneId row found := phones phoneId row found ▸ durable.phones phoneId row found
  nodeIds := durable.nodeIds
  phoneIds := durable.phoneIds
  seed := agree ▸ durable.seed

theorem done_stamped (durable : Durable c p .done db provider) : Stamped (p.epoch + 1) db where
  nodes nodeId row found :=
    le_antisymm (durable.nodeEpochs nodeId row found) ((durable.migrated trivial).1 nodeId row found)
  phones phoneId row found :=
    le_antisymm (durable.phoneEpochs phoneId row found) ((durable.migrated trivial).2 phoneId row found)

theorem rotation_crash_safe (c : IdealCrypto Blob) (p : Plan) (m : Machine Blob) (events : List CrashEvent)
    (under : Under c p p.oldKey p.epoch m) (idle : m.store.db.pendingRotation = none)
    (notAhead : NotAhead p.epoch m.store.db) (calm : ∀ event ∈ events, event.Calm) :
    let start := m.startRotation c p.newKey (p.epoch + 1)
    let reached := start.run c events
    (∀ message, reached.task ≠ .stopped message) ∧ (∀ message, reached.task ≠ .resumed (.error message)) ∧
    (∀ inputs : Nat → Inputs, (∀ n, (inputs n).Calm) →
      ∃ n outcome, (reached.crash.run c ((List.range n).map fun k => .step (inputs k))).task = .resumed (.ok outcome)) ∧
    (∀ outcome, reached.task = .resumed (.ok outcome) → reached.store.db.pendingRotation = none →
      (∀ n, (start.run c (events.take n)).store.db.pendingRotation = none) ∧ Under c p p.oldKey p.epoch reached ∨
      Under c p p.newKey (p.epoch + 1) reached ∧ Stamped (p.epoch + 1) reached.store.db) := by
  intro start reached
  obtain ⟨stage, recoverable, unwritten⟩ := run_recoverable calm (startRotation_recoverable under idle notAhead)
  refine ⟨?_, ?_, ?_, ?_⟩
  · intro message task
    have knows := recoverable.2
    simp [reached, start, task, TaskKnows] at knows
  · intro message task
    have knows := recoverable.2
    simp [reached, start, task, TaskKnows] at knows
  · intro inputs steady
    have crashed : Recoverable c p stage reached.crash := ⟨recoverable.1, trivial⟩
    exact start_resumes inputs steady crashed trivial
  · intro outcome task _
    have knows := recoverable.2
    rw [show (start.run c events).task = _ from task] at knows
    obtain ⟨rfl | rfl, memory⟩ := knows
    · have old := recoverable.1.unmigrated rfl
      exact .inl ⟨(unwritten rfl).2, recoverable.1.under memory rfl (old.1.mono fun _ _ lt => if_pos lt)
        (old.2.mono fun _ _ lt => if_pos lt)⟩
    · have new := recoverable.1.migrated trivial
      exact .inr ⟨recoverable.1.under memory rfl (new.1.mono fun _ _ le => if_neg (Nat.not_lt.mpr le))
        (new.2.mono fun _ _ le => if_neg (Nat.not_lt.mpr le)), done_stamped recoverable.1⟩

end

def smallPlan : Plan := ⟨1, 2, 1, smallLedger, 55⟩

theorem smallMachine_under (rowEpoch : Nat) : Under symbolicCrypto smallPlan 1 1 (smallMachine rowEpoch) where
  provider := rfl
  memory := rfl
  config := rfl
  nodes nodeId row found := by
    obtain ⟨rfl, rfl⟩ := smallMachine_only found
    exact ⟨100, rfl, rfl⟩
  phones phoneId row found := by simp [smallMachine] at found
  nodeIds nodeId := by
    by_cases here : nodeId = "a"
    · subst here
      rfl
    · have absent : (smallMachine rowEpoch).store.db.nodes.lookup nodeId = none :=
        Option.eq_none_iff_forall_not_mem.mpr fun row found => here (smallMachine_only found).1
      simp [smallPlan, smallLedger, here, absent]
  phoneIds phoneId := by simp [smallMachine, smallPlan, smallLedger]
  seed := ⟨_, rfl, rfl⟩

def interrupted (steps : Nat) : List CrashEvent :=
  List.replicate steps (.step calm) ++ .crash :: List.replicate 20 (.step calm)

theorem interrupted_calm (steps : Nat) : ∀ event ∈ interrupted steps, event.Calm := by
  intro event member
  have form : event = .step calm ∨ event = .crash := by
    simp only [interrupted, List.mem_append, List.mem_replicate, List.mem_cons] at member
    tauto
  rcases form with rfl | rfl
  · exact ⟨rfl, rfl⟩
  · trivial

theorem rotation_crash_safe_interrupted : Under symbolicCrypto smallPlan 2 2
      (((smallMachine 1).startRotation symbolicCrypto 2 2).run symbolicCrypto (interrupted 6)) := by
  have notAhead : NotAhead 1 (smallMachine 1).store.db := ⟨smallMachine_atRest.nodeEpochs, smallMachine_atRest.phoneEpochs⟩
  have safe := rotation_crash_safe symbolicCrypto smallPlan (smallMachine 1) (interrupted 6) (smallMachine_under 1) rfl
    notAhead (interrupted_calm 6)
  rcases safe.2.2.2 _ rfl rfl with ⟨never, -⟩ | ⟨under, -⟩
  · cases never 1
  · exact under

-- The rotation takes the row for a migrated one, and the start after it cannot open the database.
theorem rotation_unsafe_when_ahead :
    Under symbolicCrypto smallPlan 1 1 (smallMachine 2) ∧ (smallMachine 2).store.db.pendingRotation = none ∧
      (∀ event ∈ interrupted 20, event.Calm) ∧
      ∃ message, (((smallMachine 2).startRotation symbolicCrypto 2 2).run symbolicCrypto (interrupted 20)).task =
        .stopped message :=
  ⟨smallMachine_under 2, rfl, interrupted_calm 20, _, rfl⟩

end Sonde.Gateway
