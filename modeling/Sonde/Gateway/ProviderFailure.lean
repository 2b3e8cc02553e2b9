import Sonde.Gateway.CrashRecovery

namespace Sonde.Gateway
open Lib Machine

variable {Blob : Type}

inductive Op where
  | upsertNode (nonce : BitVec 96) (record : NodeRecord)
  | insertNodeIfNotExists (nonce : BitVec 96) (record : NodeRecord)
  | storePhonePsk (nonce : BitVec 96) (record : PhonePskRecord)
  | getNode (nodeId : String)
  | initMasterKeyId

namespace Op

def run (c : IdealCrypto Blob) (op : Op) (s : Store Blob) (ledger : Ledger) : Store Blob × Ledger :=
  match op with
  | .upsertNode nonce record => (Write.upsertNode nonce record).run c s ledger
  | .insertNodeIfNotExists nonce record => (Write.insertNodeIfNotExists nonce record).run c s ledger
  | .storePhonePsk nonce record => (Write.storePhonePsk nonce record).run c s ledger
  | .getNode _ => (s, ledger)
  | .initMasterKeyId =>
    match Gateway.initMasterKeyId c s with
    | .ok (_, s') => (s', ledger)
    | .error _ => (s, ledger)

def Harmless (op : Op) (s : Store Blob) : Prop :=
  match op with
  | .upsertNode _ record => i64Max < record.keyVersion
  | .insertNodeIfNotExists _ record => i64Max < record.keyVersion ∨ record.nodeId ∈ s.db.nodes
  | .storePhonePsk _ record =>
    phoneLabelMaxBytes < record.label.utf8ByteSize ∨ i64Max < record.keyVersion ∨ u32Max < nextPhoneId s.db
  | .getNode _ => True
  | .initMasterKeyId => (∀ nodeId, s.db.nodes.lookup nodeId = none) ∧ ∀ phoneId, s.db.phonePsks.lookup phoneId = none

end Op

def runOps (c : IdealCrypto Blob) : List Op → Store Blob → Ledger → Store Blob × Ledger
  | [], s, ledger => (s, ledger)
  | op :: ops, s, ledger => runOps c ops (op.run c s ledger).1 (op.run c s ledger).2

def AllHarmless (c : IdealCrypto Blob) : List Op → Store Blob → Ledger → Prop
  | [], _, _ => True
  | op :: ops, s, ledger => op.Harmless s ∧ AllHarmless c ops (op.run c s ledger).1 (op.run c s ledger).2

structure Stalled (p : Plan) (s : Store Blob) : Prop where
  memory : s.masterKey = p.oldKey
  configEpoch : s.db.masterKeyEpoch = some (p.epoch + 1)
  fits : p.epoch + 1 ≤ i64Max
  configured : ∃ id, s.db.masterKeyId = some id

def NodeIntact (c : IdealCrypto Blob) (key : Bytes32) (ledger : Ledger) (nodeId : String) (row : NodeRow Blob) : Prop :=
  NodeReads c key ledger nodeId row ∧ row.masterKeyId = some (c.sha256 key)

def PhoneIntact (c : IdealCrypto Blob) (key : Bytes32) (ledger : Ledger) (phoneId : Nat) (row : PhoneRow Blob) : Prop :=
  PhoneReads c key ledger phoneId row ∧ row.masterKeyId = some (c.sha256 key)

structure Intact (c : IdealCrypto Blob) (key : Bytes32) (ledger : Ledger) (db : Db Blob) : Prop where
  nodes : db.nodes.ForAll (NodeIntact c key ledger)
  phones : db.phonePsks.ForAll (PhoneIntact c key ledger)

section
variable {c : IdealCrypto Blob} {p : Plan} {s : Store Blob} {ledger : Ledger} {op : Op} {w : Write}

theorem write_stalled (stalled : Stalled p s) : Stalled p (w.run c s ledger).1 := by
  obtain ⟨memory, -, id, epoch, -, -⟩ := w.run_frame c s ledger
  exact ⟨memory.trans stalled.memory, epoch.trans stalled.configEpoch, stalled.fits, id ▸ stalled.configured⟩

theorem stalled_metadata (stalled : Stalled p s) : ∃ id, readCurrentKeyMetadata s.db = .ok (id, p.epoch + 1) := by
  obtain ⟨id, configured⟩ := stalled.configured
  exact ⟨id, readCurrentKeyMetadata_ok.mpr ⟨configured, stalled.configEpoch, by omega, stalled.fits⟩⟩

variable (c p s) in
def stamped : Store Blob :=
  { s with db := { s.db with
      masterKeyId := some (c.sha256 p.oldKey)
      masterKeyEpoch := some (p.epoch + 1)
      nodes := s.db.nodes.mapRows fun _ => stampNode (c.sha256 p.oldKey) (p.epoch + 1)
      phonePsks := s.db.phonePsks.mapRows fun _ => stampPhone (c.sha256 p.oldKey) (p.epoch + 1) } }

theorem initMasterKeyId_run (stalled : Stalled p s) : Op.initMasterKeyId.run c s ledger =
      (if s.db.masterKeyId = some (c.sha256 p.oldKey) then s else stamped c p s, ledger) := by
  have epoch : getMasterKeyEpoch s.db = p.epoch + 1 := by simp [getMasterKeyEpoch, stalled.configEpoch]
  have fits : ¬ i64Max < p.epoch + 1 := Nat.not_lt.mpr stalled.fits
  by_cases same : s.db.masterKeyId = some (c.sha256 p.oldKey)
  · simp [Op.run, initMasterKeyId, epoch, stalled.memory, same]
  · simp [Op.run, initMasterKeyId, epoch, stalled.memory, same, fits, stamped]

theorem op_stalled (stalled : Stalled p s) : Stalled p (op.run c s ledger).1 := by
  cases op with
  | upsertNode | insertNodeIfNotExists | storePhonePsk => exact write_stalled stalled
  | getNode nodeId => exact stalled
  | initMasterKeyId =>
    rw [initMasterKeyId_run stalled]
    split
    · exact stalled
    · exact ⟨stalled.memory, rfl, stalled.fits, _, rfl⟩

/-! ## Harmless operations keep every row -/

def HasRow (db : Db Blob) : Prop :=
  (∃ nodeId row, db.nodes.lookup nodeId = some row) ∨ ∃ phoneId row, db.phonePsks.lookup phoneId = some row

variable (c p s ledger) in
structure Steady : Prop where
  intact : Intact c p.newKey ledger s.db
  configId : p.newKey = p.oldKey ∨ HasRow s.db → s.db.masterKeyId = some (c.sha256 p.newKey)

variable {nonce : BitVec 96} {record : NodeRecord}

theorem upsertNode_refused (large : i64Max < record.keyVersion) :
    (Write.upsertNode nonce record).run c s ledger = (s, ledger) := by
  cases result : upsertNode c nonce record s with
  | error e => simp [Write.run, result]
  | ok s' => exact absurd (upsertNode_ok.mp result).1 (Nat.not_le.mpr large)

theorem insertNode_refused (harmless : i64Max < record.keyVersion ∨ record.nodeId ∈ s.db.nodes) :
    (Write.insertNodeIfNotExists nonce record).run c s ledger = (s, ledger) := by
  cases result : insertNodeIfNotExists c nonce record s with
  | error e => simp [Write.run, result]
  | ok out =>
    obtain ⟨inserted, s'⟩ := out
    obtain ⟨small, id, epoch, -, effect⟩ := insertNodeIfNotExists_ok.mp result
    have present := harmless.resolve_left (Nat.not_lt.mpr small)
    rw [if_pos present] at effect
    obtain ⟨rfl, rfl⟩ := effect
    simp [Write.run, result]

theorem storePhone_refused {record : PhonePskRecord}
    (harmless : phoneLabelMaxBytes < record.label.utf8ByteSize ∨ i64Max < record.keyVersion ∨
      u32Max < nextPhoneId s.db) : (Write.storePhonePsk nonce record).run c s ledger = (s, ledger) := by
  cases result : storePhonePsk c nonce record s with
  | error e => simp [Write.run, result]
  | ok out =>
    obtain ⟨short, small, available, -⟩ := storePhonePsk_ok.mp result
    omega

theorem write_steady (same : p.newKey = p.oldKey) (stalled : Stalled p s) (steady : Steady c p s ledger) :
    Steady c p (w.run c s ledger).1 (w.run c s ledger).2 := by
  obtain ⟨-, -, id, -, -, -⟩ := w.run_frame c s ledger
  have configId := steady.configId (.inl same)
  have memory : s.masterKey = p.newKey := stalled.memory.trans same.symm
  refine ⟨⟨?_, ?_⟩, fun _ => id.trans configId⟩
  · intro nodeId row found
    rcases Write.run_nodes found with ⟨old, unchanged⟩ | ⟨-, ⟨nonce, psk, encrypted, last⟩, stampedId, -⟩
    · obtain ⟨⟨psk, known, reads⟩, keyId⟩ := steady.intact.nodes nodeId row old
      exact ⟨⟨psk, unchanged.trans known, reads⟩, keyId⟩
    · exact ⟨⟨psk, last, by rw [encrypted, memory, decryptPsk_encryptPsk]⟩, stampedId.symm.trans configId⟩
  · intro phoneId row found
    rcases Write.run_phones found with ⟨old, unchanged⟩ | ⟨-, ⟨nonce, psk, encrypted, last⟩, stampedId, -⟩
    · obtain ⟨⟨psk, known, reads⟩, keyId⟩ := steady.intact.phones phoneId row old
      exact ⟨⟨psk, unchanged.trans known, reads⟩, keyId⟩
    · exact ⟨⟨psk, last, by rw [encrypted, memory, decryptPhonePsk_encryptPhonePsk]⟩, stampedId.symm.trans configId⟩

theorem stamped_steady (harmless : Op.initMasterKeyId.Harmless s) : Steady c p (stamped c p s) ledger := by
  obtain ⟨noNodes, noPhones⟩ := harmless
  refine ⟨⟨?_, ?_⟩, ?_⟩
  · intro nodeId row found
    simp [stamped, noNodes] at found
  · intro phoneId row found
    simp [stamped, noPhones] at found
  · rintro (same | ⟨nodeId, row, found⟩ | ⟨phoneId, row, found⟩)
    · simp [stamped, same]
    · simp [stamped, noNodes] at found
    · simp [stamped, noPhones] at found

theorem op_steady (stalled : Stalled p s) (steady : Steady c p s ledger)
    (harmless : p.newKey = p.oldKey ∨ op.Harmless s) : Steady c p (op.run c s ledger).1 (op.run c s ledger).2 := by
  cases op with
  | upsertNode nonce record =>
    rcases harmless with same | large
    · exact write_steady same stalled steady
    · simpa only [Op.run, upsertNode_refused large] using steady
  | insertNodeIfNotExists nonce record =>
    rcases harmless with same | refused
    · exact write_steady same stalled steady
    · simpa only [Op.run, insertNode_refused refused] using steady
  | storePhonePsk nonce record =>
    rcases harmless with same | refused
    · exact write_steady same stalled steady
    · simpa only [Op.run, storePhone_refused refused] using steady
  | getNode nodeId => exact steady
  | initMasterKeyId =>
    rw [initMasterKeyId_run stalled]
    split
    · exact steady
    · next differs =>
        rcases harmless with same | noRows
        · exact absurd (same ▸ steady.configId (.inl same)) differs
        · exact stamped_steady noRows

/-! ## Any other operation loses one -/

theorem stamped_no_rows (different : p.newKey ≠ p.oldKey) (intact : Intact c p.newKey ledger (stamped c p s).db) :
    Op.initMasterKeyId.Harmless s := by
  have keyIds : some (c.sha256 p.oldKey) ≠ some (c.sha256 p.newKey) :=
    fun same => different (c.sha256_injective (Option.some.inj same)).symm
  have restamped : ∀ {rowId rowEpoch}, ¬ needsStamp (c.sha256 p.oldKey) (p.epoch + 1) rowId rowEpoch →
      rowId = some (c.sha256 p.oldKey) := by
    intro rowId rowEpoch kept
    by_contra other
    simp [needsStamp, other] at kept
  constructor
  · intro nodeId
    cases found : s.db.nodes.lookup nodeId with
    | none => rfl
    | some row =>
      have keyId := (intact.nodes nodeId (stampNode (c.sha256 p.oldKey) (p.epoch + 1) row) (by simp [stamped, found])).2
      unfold stampNode at keyId
      split at keyId
      · exact absurd keyId keyIds
      · next kept => exact absurd ((restamped kept).symm.trans keyId) keyIds
  · intro phoneId
    cases found : s.db.phonePsks.lookup phoneId with
    | none => rfl
    | some row =>
      have keyId := (intact.phones phoneId (stampPhone (c.sha256 p.oldKey) (p.epoch + 1) row) (by simp [stamped, found])).2
      unfold stampPhone at keyId
      split at keyId
      · exact absurd keyId keyIds
      · next kept => exact absurd ((restamped kept).symm.trans keyId) keyIds

section
variable (different : p.newKey ≠ p.oldKey) (stalled : Stalled p s)
include different stalled

theorem nodeRow_not_intact {id : Bytes32} {epoch : Nat} :
    ¬ NodeIntact c p.newKey ledger record.nodeId (nodeRow c s.masterKey nonce id epoch record) := by
  rintro ⟨⟨psk, -, reads⟩, -⟩
  simp [nodeRow, decryptPsk, encryptPsk, decryptBlob, stalled.memory, c.decrypt_other _ _ _ _ _ different] at reads

theorem phoneRow_not_intact {id : Bytes32} {epoch phoneId : Nat} {record : PhonePskRecord} :
    ¬ PhoneIntact c p.newKey ledger phoneId (phoneRow c s.masterKey nonce id epoch phoneId record) := by
  rintro ⟨⟨psk, -, reads⟩, -⟩
  simp [phoneRow, decryptPhonePsk, encryptPhonePsk, decryptBlob, stalled.memory,
    c.decrypt_other _ _ _ _ _ different] at reads

theorem upsertNode_harmless (intact : Intact c p.newKey ((Write.upsertNode nonce record).run c s ledger).2
      ((Write.upsertNode nonce record).run c s ledger).1.db) : i64Max < record.keyVersion := by
  by_contra small
  obtain ⟨id, metadata⟩ := stalled_metadata stalled
  have result : upsertNode c nonce record s = .ok _ := upsertNode_ok.mpr ⟨Nat.not_lt.mp small, id, _, metadata, rfl⟩
  simp only [Write.run, result] at intact
  exact nodeRow_not_intact different stalled (intact.nodes _ _ (AList.lookup_insert _))

theorem insertNode_harmless (intact : Intact c p.newKey ((Write.insertNodeIfNotExists nonce record).run c s ledger).2
      ((Write.insertNodeIfNotExists nonce record).run c s ledger).1.db) :
    i64Max < record.keyVersion ∨ record.nodeId ∈ s.db.nodes := by
  by_contra effective
  obtain ⟨small, absent⟩ := not_or.mp effective
  obtain ⟨id, metadata⟩ := stalled_metadata stalled
  have result : insertNodeIfNotExists c nonce record s = .ok (true, _) :=
    insertNodeIfNotExists_ok.mpr ⟨Nat.not_lt.mp small, id, _, metadata, by rw [if_neg absent]; exact ⟨rfl, rfl⟩⟩
  simp only [Write.run, result] at intact
  exact nodeRow_not_intact different stalled (intact.nodes _ _ (AList.lookup_insert _))

theorem storePhone_harmless {record : PhonePskRecord}
    (intact : Intact c p.newKey ((Write.storePhonePsk nonce record).run c s ledger).2
      ((Write.storePhonePsk nonce record).run c s ledger).1.db) :
    phoneLabelMaxBytes < record.label.utf8ByteSize ∨ i64Max < record.keyVersion ∨ u32Max < nextPhoneId s.db := by
  by_contra effective
  simp only [not_or, not_lt] at effective
  obtain ⟨id, metadata⟩ := stalled_metadata stalled
  have result : storePhonePsk c nonce record s = .ok (nextPhoneId s.db, _) :=
    storePhonePsk_ok.mpr ⟨effective.1, effective.2.1, effective.2.2, id, _, metadata, rfl, rfl⟩
  simp only [Write.run, result] at intact
  exact phoneRow_not_intact different stalled (intact.phones _ _ (AList.lookup_insert _))

theorem op_reflects (intact : Intact c p.newKey (op.run c s ledger).2 (op.run c s ledger).1.db) :
    Intact c p.newKey ledger s.db ∧ (Steady c p s ledger → op.Harmless s) := by
  cases op with
  | upsertNode nonce record =>
    have harmless := upsertNode_harmless different stalled intact
    exact ⟨by simpa only [Op.run, upsertNode_refused harmless] using intact, fun _ => harmless⟩
  | insertNodeIfNotExists nonce record =>
    have harmless := insertNode_harmless different stalled intact
    exact ⟨by simpa only [Op.run, insertNode_refused harmless] using intact, fun _ => harmless⟩
  | storePhonePsk nonce record =>
    have harmless := storePhone_harmless different stalled intact
    exact ⟨by simpa only [Op.run, storePhone_refused harmless] using intact, fun _ => harmless⟩
  | getNode nodeId => exact ⟨intact, fun _ => trivial⟩
  | initMasterKeyId =>
    rw [initMasterKeyId_run stalled] at intact
    split at intact
    · next same =>
        refine ⟨intact, fun steady => ?_⟩
        have noRow : ¬ HasRow s.db := fun row =>
          different (c.sha256_injective (Option.some.inj ((steady.configId (.inr row)).symm.trans same)))
        simpa [HasRow, Op.Harmless, not_or, Option.eq_none_iff_forall_not_mem] using noRow
    · have noRows := stamped_no_rows different intact
      refine ⟨⟨?_, ?_⟩, fun _ => noRows⟩
      · intro nodeId row found
        simp [noRows.1] at found
      · intro phoneId row found
        simp [noRows.2] at found

theorem runOps_reflects {ops : List Op}
    (intact : Intact c p.newKey (runOps c ops s ledger).2 (runOps c ops s ledger).1.db) :
    Intact c p.newKey ledger s.db := by
  induction ops generalizing s ledger with
  | nil => exact intact
  | cons op rest ih => exact (op_reflects different stalled (ih (op_stalled stalled) intact)).1

end

theorem runOps_intact_iff {ops : List Op} (stalled : Stalled p s) (steady : Steady c p s ledger) :
    Intact c p.newKey (runOps c ops s ledger).2 (runOps c ops s ledger).1.db ↔
      p.newKey = p.oldKey ∨ AllHarmless c ops s ledger := by
  induction ops generalizing s ledger with
  | nil => simp [runOps, AllHarmless, steady.intact]
  | cons op rest ih =>
    constructor
    · intro intact
      by_cases same : p.newKey = p.oldKey
      · exact .inl same
      · have next := runOps_reflects same (op_stalled stalled) intact
        have harmless := (op_reflects same stalled next).2 steady
        have tail := (ih (op_stalled stalled) (op_steady stalled steady (.inr harmless))).mp intact
        exact .inr ⟨harmless, tail.resolve_left same⟩
    · rintro (same | ⟨harmless, tail⟩)
      · exact (ih (op_stalled stalled) (op_steady stalled steady (.inl same))).mpr (.inl same)
      · exact (ih (op_stalled stalled) (op_steady stalled steady (.inr harmless))).mpr (.inr tail)

variable {i : Inputs} {m : Machine Blob}

theorem rotationStep_provider {job : Job} {pc : RotationPc} (other : pc ≠ .writeProvider) :
    m.rotationStep c i job pc = m.rotationStep c { i with providerFault := none } job pc := by
  cases pc with
  | writeProvider => exact absurd rfl other
  | migrateNodes todo | migratePhones todo => cases todo <;> rfl
  | _ => rfl

variable (c p m) in
def Attempting : Prop :=
  World.Sound c ⟨m, p.ledger⟩ ∧
  match m.task with
  | .rotating _ _ => ∃ stage, Recoverable c p stage m
  | .rotated (.error _) =>
    m.store.masterKey = p.oldKey ∧ (Durable c p .before m.store.db m.provider ∨ Durable c p .committed m.store.db m.provider)
  | _ => True

theorem recoverable_attempting {stage : Stage} (sound : World.Sound c ⟨m, p.ledger⟩)
    (recoverable : Recoverable c p stage m) : Attempting c p m := by
  refine ⟨sound, ?_⟩
  have knows := recoverable.2
  cases task : m.task with
  | rotating job pc => exact ⟨stage, recoverable⟩
  | rotated result =>
    cases result with
    | ok u => trivial
    | error message =>
      rw [task] at knows
      obtain ⟨rfl, memory⟩ := knows
      exact ⟨memory, .inl recoverable.1⟩
  | _ => trivial

theorem step_attempting (steady : i.storageFault = none)
    (attempting : Attempting c p m) : Attempting c p (m.step c i) := by
  obtain ⟨sound, knows⟩ := attempting
  have next : World.Sound c ⟨m.step c i, p.ledger⟩ := rotate_sound sound
  cases task : m.task with
  | rotating job pc =>
    rw [task] at knows
    obtain ⟨stage, recoverable⟩ := knows
    by_cases writing : pc = .writeProvider
    · subst writing
      cases fault : i.providerFault with
      | none =>
        obtain ⟨stage', -, after⟩ := step_follows ⟨steady, fault⟩ recoverable
        exact recoverable_attempting next after
      | some message =>
        simp only [World.Sound, task] at sound
        have job_eq := recoverable.2
        rw [task] at job_eq
        obtain ⟨job_eq, rfl⟩ := job_eq
        have memory : m.store.masterKey = p.oldKey := by
          rw [job_eq, sound.1] at sound
          exact sound.2.memory
        refine ⟨next, ?_⟩
        simp only [step, task, rotationStep, Inputs.provider, fault, fail, Job.returned, sound.1]
        exact ⟨memory, .inr recoverable.1⟩
    · have same : m.step c i = m.step c { i with providerFault := none } := by
        simpa only [step, task] using rotationStep_provider writing
      obtain ⟨stage', -, after⟩ := step_follows (i := { i with providerFault := none }) ⟨steady, rfl⟩ recoverable
      rw [same] at next ⊢
      exact recoverable_attempting next after
  | rotated result =>
    have same : m.step c i = m := by simp only [step, task]
    rw [same]
    exact ⟨sound, knows⟩
  | _ => simp [World.Sound, task] at sound

/-! ## The restart -/

structure Unfinished (c : IdealCrypto Blob) (p : Plan) (pending : PendingRotationRecord Blob) (m : Machine Blob) :
    Prop where
  provider : m.provider = p.oldKey
  config : m.store.db.masterKeyEpoch = some (p.epoch + 1)
  stored : m.store.db.pendingRotation = some pending
  key : ∃ nonce, pending.newMasterKeyEnc = encryptPendingNewKey c p.oldKey nonce p.newKey
  epoch : pending.newEpoch = p.epoch + 1

def Encrypted (nodes : Table String (NodeRow Blob)) : Prop := nodes.ForAll fun _ row => ∃ blob, row.psk = .sealed blob

def Restarting (c : IdealCrypto Blob) (p : Plan) (pending : PendingRotationRecord Blob)
    (nodes : Table String (NodeRow Blob)) (phones : Table Nat (PhoneRow Blob)) (m : Machine Blob) : Prop :=
  m.store.db.nodes = nodes ∧ m.store.db.phonePsks = phones ∧
  match m.task with
  | .off => Unfinished c p pending m
  | .migrateLegacy | .openStore | .readPending => Unfinished c p pending m ∧ m.store.masterKey = p.oldKey
  | .readEpoch found | .loadProvider found =>
    Unfinished c p pending m ∧ m.store.masterKey = p.oldKey ∧ found = pending
  | .writeRecovered _ key | .deleteRecovered _ key | .swapRecovered _ key => key = p.newKey
  | .resumed (.ok _) => m.store.masterKey = p.newKey
  | .resumed (.error _) | .stopped _ => True
  | _ => False

theorem step_restarting {pending : PendingRotationRecord Blob} {nodes : Table String (NodeRow Blob)}
    {phones : Table Nat (PhoneRow Blob)} (encrypted : Encrypted nodes)
    (restarting : Restarting c p pending nodes phones m) : Restarting c p pending nodes phones (m.step c i) := by
  obtain ⟨rfl, rfl, knows⟩ := restarting
  generalize task : m.task = current at knows
  rw [step, task]
  cases current with
  | off =>
    cases i.providerFault with
    | some e => simp [Restarting]
    | none =>
      simp only [Restarting]
      exact ⟨trivial, trivial, { knows with }, knows.provider⟩
  | migrateLegacy =>
    cases i.storageFault with
    | some e => simp [Restarting]
    | none =>
      have same : m.store.db.nodes.mapRows (migrateLegacyRow c i.nonces m.store.masterKey) = m.store.db.nodes := by
        apply Table.mapRows_eq_self
        intro nodeId row found
        obtain ⟨blob, is_sealed⟩ := encrypted nodeId row found
        simp [migrateLegacyRow, is_sealed]
      simp only [Restarting, migrateLegacyPsks, withDb, same]
      exact ⟨trivial, trivial, { knows.1 with }, knows.2⟩
  | openStore =>
    cases i.storageFault with
    | some e => simp [Restarting]
    | none =>
      cases opened : openStore c m.store.masterKey m.store.db with
      | error e => simp [Restarting]
      | ok s =>
        obtain ⟨key, -, u, -, rfl⟩ : ∃ key, _ ∧ ∃ u, _ ∧ _ = s := by
          simpa only [openStore, bind_eq_ok, pure_eq_ok, Except.ok.injEq] using opened
        simp only [Restarting]
        exact ⟨trivial, trivial, { knows.1 with }, knows.2⟩
  | readPending =>
    cases fault : i.storageFault with
    | some e => simp [Restarting, Inputs.call, fault, resumeError]
    | none =>
      simp only [Restarting, Inputs.call, fault, knows.1.stored]
      exact ⟨trivial, trivial, { knows.1 with }, knows.2, trivial⟩
  | readEpoch found =>
    obtain ⟨unfinished, memory, rfl⟩ := knows
    have config : getMasterKeyEpoch m.store.db = found.newEpoch := by
      simp [getMasterKeyEpoch, unfinished.config, unfinished.epoch]
    cases fault : i.storageFault with
    | some e => simp [Restarting, Inputs.call, fault, resumeError]
    | none =>
      simp only [Restarting, Inputs.call, fault, config, lt_irrefl, if_false, if_true]
      exact ⟨trivial, trivial, { unfinished with }, memory, trivial⟩
  | loadProvider found =>
    obtain ⟨unfinished, memory, rfl⟩ := knows
    obtain ⟨nonce, encryption⟩ := unfinished.key
    cases fault : i.providerFault with
    | some e => simp [Restarting, Inputs.provider, fault, resumeError]
    | none =>
      simp only [Restarting, Inputs.provider, fault, memory, encryption, decryptPendingNewKey_encryptPendingNewKey]
      split <;> exact ⟨rfl, rfl, rfl⟩
  | writeRecovered found key =>
    cases fault : i.providerFault with
    | some e => simp [Restarting, Inputs.provider, fault, resumeError]
    | none =>
      simp only [Restarting, Inputs.provider, fault]
      exact ⟨trivial, trivial, knows⟩
  | deleteRecovered found key =>
    cases fault : i.storageFault with
    | some e => simp [Restarting, deleteThen, Inputs.call, fault, resumeError]
    | none =>
      simp only [Restarting, deleteThen, Inputs.call, fault]
      exact ⟨rfl, rfl, knows⟩
  | swapRecovered found key =>
    simp only [Restarting, notify]
    exact ⟨trivial, trivial, knows⟩
  | resumed result =>
    simp only [Restarting, task]
    exact ⟨trivial, trivial, knows⟩
  | stopped message => simp [Restarting, task]
  | _ => exact knows.elim

theorem write_encrypted (encrypted : Encrypted s.db.nodes) : Encrypted (w.run c s ledger).1.db.nodes := by
  intro nodeId row found
  rcases Write.run_nodes found with ⟨old, -⟩ | ⟨-, ⟨nonce, psk, sealing, -⟩, -⟩
  · exact encrypted nodeId row old
  · exact ⟨_, sealing⟩

theorem op_frame (op : Op) (ledger : Ledger) (stalled : Stalled p s) (encrypted : Encrypted s.db.nodes) :
    (op.run c s ledger).1.db.pendingRotation = s.db.pendingRotation ∧ Encrypted (op.run c s ledger).1.db.nodes := by
  have frame : ∀ w : Write, (w.run c s ledger).1.db.pendingRotation = s.db.pendingRotation :=
    fun w => (w.run_frame c s ledger).2.2.2.2.2
  cases op with
  | upsertNode nonce record => exact ⟨frame _, write_encrypted encrypted⟩
  | insertNodeIfNotExists nonce record => exact ⟨frame _, write_encrypted encrypted⟩
  | storePhonePsk nonce record => exact ⟨frame _, write_encrypted encrypted⟩
  | getNode nodeId => exact ⟨rfl, encrypted⟩
  | initMasterKeyId =>
    rw [initMasterKeyId_run stalled]
    split
    · exact ⟨rfl, encrypted⟩
    · refine ⟨rfl, encrypted.mapRows fun nodeId row is_sealed => ?_⟩
      unfold stampNode
      split <;> exact is_sealed

theorem runOps_frame (ops : List Op) (ledger : Ledger) (stalled : Stalled p s)
    (encrypted : Encrypted s.db.nodes) : Stalled p (runOps c ops s ledger).1 ∧
      (runOps c ops s ledger).1.db.pendingRotation = s.db.pendingRotation ∧
      Encrypted (runOps c ops s ledger).1.db.nodes := by
  induction ops generalizing s ledger with
  | nil => exact ⟨stalled, rfl, encrypted⟩
  | cons op rest ih =>
    obtain ⟨pending, next⟩ := op_frame op ledger stalled encrypted
    obtain ⟨last, same, rows⟩ := ih _ (op_stalled stalled) next
    exact ⟨last, same.trans pending, rows⟩

theorem run_restarting (inputs : List Inputs) {pending : PendingRotationRecord Blob}
    {nodes : Table String (NodeRow Blob)} {phones : Table Nat (PhoneRow Blob)} (encrypted : Encrypted nodes)
    (restarting : Restarting c p pending nodes phones m) :
    Restarting c p pending nodes phones (m.run c (inputs.map .step)) := by
  induction inputs generalizing m with
  | nil => exact restarting
  | cons i rest ih => exact ih (step_restarting encrypted restarting)

theorem run_attempting {inputs : List Inputs} (steady : ∀ i ∈ inputs, i.storageFault = none)
    (attempting : Attempting c p m) : Attempting c p (m.run c (inputs.map .step)) := by
  induction inputs generalizing m with
  | nil => exact attempting
  | cons i rest ih =>
    exact ih (fun j member => steady j (List.mem_cons_of_mem _ member))
      (step_attempting (steady i List.mem_cons_self) attempting)

theorem startRotation_attempting (under : Under c p p.oldKey p.epoch m) (idle : m.store.db.pendingRotation = none)
    (notAhead : NotAhead p.epoch m.store.db) : Attempting c p (m.startRotation c p.newKey (p.epoch + 1)) := by
  have rest : AtRest c m.store p.ledger p.epoch :=
    ⟨⟨under.memory ▸ under.nodes, under.memory ▸ under.phones⟩, under.config, notAhead.nodes, notAhead.phones⟩
  exact ⟨startRotation_sound rest, .before, startRotation_recoverable under idle notAhead⟩

theorem committed_steady {provider : Bytes32} (durable : Durable c p .committed s.db provider) :
    Steady c p s p.ledger := by
  obtain ⟨nodesDone, phonesDone⟩ := durable.migrated trivial
  refine ⟨⟨?_, ?_⟩, fun _ => durable.configId trivial⟩
  · intro nodeId row found
    have done := nodesDone nodeId row found
    have reads : NodeReads c (p.rowKey row.masterKeyEpoch) p.ledger nodeId row := durable.nodes nodeId row found
    rw [Plan.rowKey, if_neg (Nat.not_lt.mpr done)] at reads
    exact ⟨reads, durable.nodeKeyIds nodeId row found done⟩
  · intro phoneId row found
    have done := phonesDone phoneId row found
    have reads : PhoneReads c (p.rowKey row.masterKeyEpoch) p.ledger phoneId row := durable.phones phoneId row found
    rw [Plan.rowKey, if_neg (Nat.not_lt.mpr done)] at reads
    exact ⟨reads, durable.phoneKeyIds phoneId row found done⟩

theorem failed_provider_write_iff (c : IdealCrypto Blob) (p : Plan) (m : Machine Blob) (attempt restart : List Inputs)
    (ops : List Op) (under : Under c p p.oldKey p.epoch m) (idle : m.store.db.pendingRotation = none)
    (notAhead : NotAhead p.epoch m.store.db) (steady : ∀ i ∈ attempt, i.storageFault = none) :
    let attempted := (m.startRotation c p.newKey (p.epoch + 1)).run c (attempt.map .step)
    let after := runOps c ops attempted.store p.ledger
    let restarted := ({ attempted with store := after.1 } : Machine Blob).crash.run c (restart.map .step)
    (∃ message, attempted.task = .rotated (.error message)) →
    attempted.store.db.masterKeyEpoch = some (p.epoch + 1) →
    (∃ outcome, restarted.task = .resumed (.ok outcome)) →
    (Intact c restarted.store.masterKey after.2 restarted.store.db ↔
      p.newKey = p.oldKey ∨ AllHarmless c ops attempted.store p.ledger) := by
  intro attempted after restarted failed committed resumed
  obtain ⟨message, failed⟩ := failed
  obtain ⟨outcome, resumed⟩ := resumed
  have attempting := run_attempting steady (startRotation_attempting under idle notAhead)
  obtain ⟨-, knows⟩ := attempting
  rw [show ((m.startRotation c p.newKey (p.epoch + 1)).run c (attempt.map .step)).task = _ from failed] at knows
  obtain ⟨memory, early | durable⟩ := knows
  · have config : attempted.store.db.masterKeyEpoch = some p.epoch := early.config
    rw [config, Option.some.injEq] at committed
    omega
  obtain ⟨fits, nonce, stored⟩ := durable.pending
  have stalled : Stalled p attempted.store := ⟨memory, committed, fits, _, durable.configId trivial⟩
  have encrypted : Encrypted attempted.store.db.nodes := by
    intro nodeId row found
    obtain ⟨psk, -, reads⟩ := durable.nodes nodeId row found
    exact decryptPsk_sealed reads
  obtain ⟨stalledAfter, pending, encryptedAfter⟩ := runOps_frame ops p.ledger stalled encrypted
  have begins : Restarting c p _ after.1.db.nodes after.1.db.phonePsks
      ({ attempted with store := after.1 } : Machine Blob).crash :=
    ⟨rfl, rfl, ⟨durable.provider, stalledAfter.configEpoch, pending.trans stored, ⟨nonce, rfl⟩, rfl⟩⟩
  obtain ⟨nodes, phones, key⟩ := run_restarting restart encryptedAfter begins
  rw [show (run c _ (restart.map .step)).task = _ from resumed] at key
  have unchanged : Intact c restarted.store.masterKey after.2 restarted.store.db ↔
      Intact c p.newKey after.2 after.1.db := by
    rw [show restarted.store.masterKey = p.newKey from key]
    exact ⟨fun intact => ⟨nodes ▸ intact.nodes, phones ▸ intact.phones⟩,
      fun intact => ⟨nodes.symm ▸ intact.nodes, phones.symm ▸ intact.phones⟩⟩
  exact unchanged.trans (runOps_intact_iff stalled (committed_steady durable))

end

def refused : Inputs := { calm with providerFault := some "read-only file system" }

def stalledMachine : Machine SymbolicBlob :=
  ((smallMachine 1).startRotation symbolicCrypto 2 2).run symbolicCrypto ((List.replicate 13 refused).map .step)

def restartedAfter (ops : List Op) : Machine SymbolicBlob :=
  run symbolicCrypto
    ({ stalledMachine with store := (runOps symbolicCrypto ops stalledMachine.store smallLedger).1 } :
      Machine SymbolicBlob).crash
    ((List.replicate 9 calm).map .step)

theorem failed_provider_write_read :
    Intact symbolicCrypto (restartedAfter [.getNode "a"]).store.masterKey smallLedger (restartedAfter [.getNode "a"]).store.db := by
  have notAhead : NotAhead 1 (smallMachine 1).store.db := ⟨smallMachine_atRest.nodeEpochs, smallMachine_atRest.phoneEpochs⟩
  have steady : ∀ i ∈ List.replicate 13 refused, i.storageFault = none := by
    intro i member
    rw [(List.mem_replicate.mp member).2]
    rfl
  exact (failed_provider_write_iff symbolicCrypto smallPlan (smallMachine 1) (List.replicate 13 refused)
    (List.replicate 9 calm) [.getNode "a"] (smallMachine_under 1) rfl notAhead steady ⟨_, rfl⟩ rfl ⟨_, rfl⟩).mpr
    (.inr ⟨trivial, trivial⟩)

def lateRegistration : Op := .upsertNode 0 (NodeRecord.new "b" 11 200)

-- The row is written under the old key and stamped with the new one; the restart installs the new key.
theorem failed_provider_write_loses_node : Under symbolicCrypto smallPlan 1 1 (smallMachine 1) ∧
      (∃ message, stalledMachine.task = .rotated (.error message)) ∧ stalledMachine.store.db.masterKeyEpoch = some 2 ∧
      (∃ outcome, (restartedAfter [lateRegistration]).task = .resumed (.ok outcome)) ∧
      ∃ row, (restartedAfter [lateRegistration]).store.db.nodes.lookup "b" = some row ∧
        (runOps symbolicCrypto [lateRegistration] stalledMachine.store smallLedger).2.nodes "b" = some 200 ∧
        row.psk = encryptPsk symbolicCrypto 1 0 "b" 200 ∧ row.masterKeyId = some (symbolicCrypto.sha256 2) ∧
        ∀ psk, decryptPsk symbolicCrypto (restartedAfter [lateRegistration]).store.masterKey "b" row.psk ≠ .ok psk := by
  refine ⟨smallMachine_under 1, ⟨_, rfl⟩, rfl, ⟨_, rfl⟩, _, rfl, rfl, rfl, rfl, ?_⟩
  intro psk reads
  have unreadable : decryptPsk symbolicCrypto 2 "b" (encryptPsk symbolicCrypto 1 0 "b" 200) =
      .error (.internal "psk decryption failed — wrong master key or data corruption") := rfl
  cases unreadable.symm.trans reads

end Sonde.Gateway
