import Sonde.Gateway.Rotation
import Sonde.Gateway.Writers

namespace Sonde.Gateway
open Lib

variable {Blob : Type}

structure World (Blob : Type) where
  machine : Machine Blob
  ledger : Ledger

open World

inductive Event where
  | rotate (i : Inputs)
  | write (w : Write)

namespace World

def store (w : World Blob) : Store Blob := w.machine.store

def step (c : IdealCrypto Blob) (w : World Blob) : Event → World Blob
  | .rotate i => { w with machine := w.machine.step c i }
  | .write write =>
    let (s, ledger) := write.run c w.store w.ledger
    { machine := { w.machine with store := s }, ledger := ledger }

def run (c : IdealCrypto Blob) (w : World Blob) (events : List Event) : World Blob := events.foldl (step c) w

end World

def nodeKeyAt (job : Job) (pc : RotationPc) (nodeId : String) : Bytes32 :=
  match pc with
  | .writePending | .setRotationKey | .readMigrating | .listNodes => job.oldKey
  | .migrateNodes todo => if nodeId ∈ todo then job.oldKey else job.newKey
  | _ => job.newKey

def phoneKeyAt (job : Job) (pc : RotationPc) (phoneId : Nat) : Bytes32 :=
  match pc with
  | .writePending | .setRotationKey | .readMigrating | .listNodes | .migrateNodes _ => job.oldKey
  | .migratePhones todo => if phoneId ∈ todo then job.oldKey else job.newKey
  | _ => job.newKey

def memoryKeyAt (job : Job) : RotationPc → Bytes32
  | .clearKey => job.newKey
  | _ => job.oldKey

def NodesUnlisted : RotationPc → Prop
  | .writePending | .setRotationKey | .readMigrating | .listNodes => True
  | _ => False

def PhonesUnlisted : RotationPc → Prop
  | .writePending | .setRotationKey | .readMigrating | .listNodes | .migrateNodes _ => True
  | _ => False

def RotationPc.Distinct : RotationPc → Prop
  | .migrateNodes todo => todo.Nodup
  | .migratePhones todo => todo.Nodup
  | _ => True

def phaseAt : RotationPc → Option RotationPhase
  | .setRotationKey | .readMigrating => some .migratingPsks
  | .readRewrapping => some .rewrappingIdentity
  | .readCommitting => some .committing
  | _ => none

/-- A write suits the rotation when the key in memory, under which it encrypts, is the one the rotation takes each
touched row to be under. -/
def Suits (m : Machine Blob) (w : Write) : Prop :=
  match m.task with
  | .rotating job pc =>
    (∀ nodeId, w.TouchesNode m.store nodeId → m.store.masterKey = nodeKeyAt job pc nodeId) ∧
    (∀ phoneId, w.TouchesPhone m.store phoneId → m.store.masterKey = phoneKeyAt job pc phoneId)
  | _ => True

def Undisturbed (c : IdealCrypto Blob) : List Event → World Blob → Prop
  | [], _ => True
  | .rotate i :: events, w => Undisturbed c events (w.step c (.rotate i))
  | .write write :: events, w => Suits w.machine write ∧ Undisturbed c events (w.step c (.write write))

structure Readable (c : IdealCrypto Blob) (nodeKey : String → Bytes32) (phoneKey : Nat → Bytes32) (ledger : Ledger)
    (nodes : Table String (NodeRow Blob)) (phones : Table Nat (PhoneRow Blob)) : Prop where
  nodes : nodes.ForAll fun nodeId row => NodeReads c (nodeKey nodeId) ledger nodeId row
  phones : phones.ForAll fun phoneId row => PhoneReads c (phoneKey phoneId) ledger phoneId row

structure Coherent (c : IdealCrypto Blob) (job : Job) (pc : RotationPc) (s : Store Blob) (ledger : Ledger) : Prop where
  distinct : pc.Distinct
  memory : s.masterKey = memoryKeyAt job pc
  readable : Readable c (nodeKeyAt job pc) (phoneKeyAt job pc) ledger s.db.nodes s.db.phonePsks
  nodeEpochs : NodesUnlisted pc → s.db.nodes.ForAll fun _ row => row.masterKeyEpoch < job.newEpoch
  phoneEpochs : PhonesUnlisted pc → s.db.phonePsks.ForAll fun _ row => row.masterKeyEpoch < job.newEpoch
  configEpoch : PhonesUnlisted pc → ∀ epoch, s.db.masterKeyEpoch = some epoch → epoch < job.newEpoch
  phase : ∀ pending, s.db.pendingRotation = some pending → ∀ phase, phaseAt pc = some phase → pending.phase = phase

def World.Sound (c : IdealCrypto Blob) (w : World Blob) : Prop :=
  match w.machine.task with
  | .rotating job pc => job.resumed = false ∧ Coherent c job pc w.store w.ledger
  | .rotated (.ok ()) =>
    Readable c (fun _ => w.store.masterKey) (fun _ => w.store.masterKey) w.ledger w.store.db.nodes
      w.store.db.phonePsks
  | .rotated (.error _) => True
  | _ => False

/-! ## One step of the rotation -/

variable {nodeId : String}
    {c : IdealCrypto Blob} {i : Inputs} {job : Job} {pc : RotationPc} {m : Machine Blob} {s : Store Blob}
  {ledger : Ledger}

theorem sound_fail {message : String} (fresh : job.resumed = false) : Sound c ⟨m.fail job message, ledger⟩ := by
  simp [Sound, Machine.fail, Job.returned, fresh]

theorem writeDb_sound {result : Except String (Db Blob)} (fresh : job.resumed = false)
    (next : ∀ db, result = .ok db → Coherent c job pc { m.store with db := db } ledger) :
    Sound c ⟨m.writeDb job result pc, ledger⟩ := by
  cases result with
  | error e => exact sound_fail fresh
  | ok db => exact ⟨fresh, next db rfl⟩

theorem readPhase_sound {disappeared : String} {phase : RotationPhase} {run skip : RotationPc}
    (fresh : job.resumed = false)
    (expected : ∀ pending, m.store.db.pendingRotation = some pending → pending.phase = phase)
    (next : Coherent c job run m.store ledger) : Sound c ⟨m.readPhase i job disappeared phase run skip, ledger⟩ := by
  unfold Machine.readPhase
  cases fault : i.storageFault with
  | some e =>
    simp only [Inputs.call, fault]
    exact sound_fail fresh
  | none =>
    simp only [Inputs.call, fault]
    cases found : m.store.db.pendingRotation with
    | none => exact sound_fail fresh
    | some pending =>
      simp only [expected pending found, if_true]
      exact ⟨fresh, next⟩

variable {nonce : BitVec 96} {db : Db Blob} {todo : List String}

theorem migrateNode_coherent (before : Coherent c job (.migrateNodes (nodeId :: todo)) s ledger)
    (migrated : migrateNodePsk c nonce nodeId job.oldKey job.newKey job.newKeyId job.newEpoch s.db = .ok db) :
    Coherent c job (.migrateNodes todo) { s with db := db } ledger := by
  obtain ⟨-, row, psk, found, reads, rfl⟩ := migrateNodePsk_ok.mp migrated
  obtain ⟨distinct, rest⟩ := List.nodup_cons.mp before.distinct
  obtain ⟨last, known, decrypted⟩ := before.readable.nodes nodeId row found
  simp only [nodeKeyAt, List.mem_cons, true_or, if_true, reads, Except.ok.injEq] at decrypted
  subst decrypted
  refine { before with
    distinct := rest
    readable := ⟨before.readable.nodes.update (fun _ _ => ⟨psk, known, ?_⟩) fun other _ here same => ?_, before.readable.phones⟩
    nodeEpochs := False.elim }
  · simp [nodeKeyAt, distinct, reencryptNode]
  · simpa [nodeKeyAt, here] using same

theorem migratePhone_coherent {phoneId : Nat} {todo : List Nat}
    (before : Coherent c job (.migratePhones (phoneId :: todo)) s ledger)
    (migrated : migratePhonePsk c nonce phoneId job.oldKey job.newKey job.newKeyId job.newEpoch s.db = .ok db) :
    Coherent c job (.migratePhones todo) { s with db := db } ledger := by
  obtain ⟨-, row, psk, found, reads, rfl⟩ := migratePhonePsk_ok.mp migrated
  obtain ⟨distinct, rest⟩ := List.nodup_cons.mp before.distinct
  obtain ⟨last, known, decrypted⟩ := before.readable.phones phoneId row found
  simp only [phoneKeyAt, List.mem_cons, true_or, if_true, reads, Except.ok.injEq] at decrypted
  subst decrypted
  refine { before with
    distinct := rest
    readable := ⟨before.readable.nodes, before.readable.phones.update (fun _ _ => ⟨psk, known, ?_⟩) fun other _ here same => ?_⟩
    phoneEpochs := False.elim }
  · simp [phoneKeyAt, distinct, reencryptPhone]
  · simpa [phoneKeyAt, here] using same

theorem listNodes_coherent (before : Coherent c job .listNodes s ledger)
    (listed : listUnmigratedNodeIds job.newEpoch s.db = .ok todo) : Coherent c job (.migrateNodes todo) s ledger := by
  obtain ⟨distinct, unmigrated⟩ := listUnmigratedNodeIds_ok listed
  refine { before with
    distinct := distinct
    readable := ⟨?_, before.readable.phones⟩
    nodeEpochs := False.elim
    phase := by simp [phaseAt] }
  intro nodeId row found
  have inside := (unmigrated nodeId).mpr ⟨row, found, before.nodeEpochs trivial nodeId row found⟩
  simpa [nodeKeyAt, inside] using before.readable.nodes nodeId row found

theorem listPhones_coherent (before : Coherent c job (.migrateNodes []) s ledger) {todo : List Nat}
    (listed : listUnmigratedPhoneIds job.newEpoch s.db = .ok todo) : Coherent c job (.migratePhones todo) s ledger := by
  obtain ⟨distinct, unmigrated⟩ := listUnmigratedPhoneIds_ok listed
  refine { before with
    distinct := distinct
    readable := ⟨?_, ?_⟩
    phoneEpochs := False.elim
    configEpoch := False.elim }
  · simpa [nodeKeyAt] using before.readable.nodes
  · intro phoneId row found
    have inside := (unmigrated phoneId).mpr ⟨row, found, before.phoneEpochs trivial phoneId row found⟩
    simpa [phoneKeyAt, inside] using before.readable.phones phoneId row found

theorem rotationStep_sound (fresh : job.resumed = false) (before : Coherent c job pc m.store ledger) :
    Sound c ⟨m.rotationStep c i job pc, ledger⟩ := by
  unfold Machine.rotationStep
  cases pc with
  | writePending =>
    cases called : i.call "prepare failed"
        (writePendingRotation c i.nonce job.newKey job.newKeyId job.newEpoch m.store) with
    | error e => exact sound_fail fresh
    | ok s =>
      obtain ⟨-, -, rfl⟩ := writePendingRotation_ok.mp (call_ok called)
      exact ⟨fresh, { before with phase := by simp [phaseAt, Machine.goto, store] }⟩
  | setRotationKey => exact ⟨fresh, { before with }⟩
  | readMigrating | readRewrapping | readCommitting =>
    exact readPhase_sound fresh (fun pending found => before.phase pending found _ rfl)
      { before with phase := by simp [phaseAt] }
  | listNodes =>
    cases called : i.call "list unmigrated nodes" (listUnmigratedNodeIds job.newEpoch m.store.db) with
    | error e => exact sound_fail fresh
    | ok todo => exact ⟨fresh, listNodes_coherent before (call_ok called)⟩
  | migrateNodes todo =>
    cases todo with
    | cons nodeId todo =>
      exact writeDb_sound fresh fun db called => migrateNode_coherent before (call_ok called)
    | nil =>
      cases called : i.call "list unmigrated phones" (listUnmigratedPhoneIds job.newEpoch m.store.db) with
      | error e => exact sound_fail fresh
      | ok todo => exact ⟨fresh, listPhones_coherent before (call_ok called)⟩
  | migratePhones todo =>
    cases todo with
    | cons phoneId todo =>
      exact writeDb_sound fresh fun db called => migratePhone_coherent before (call_ok called)
    | nil =>
      refine writeDb_sound fresh fun db called => ?_
      obtain ⟨pending, -, rfl⟩ := updateRotationPhase_ok.mp (call_ok called)
      refine { before with
        distinct := trivial
        phase := by simp [phaseAt] }
  | rewrap =>
    refine writeDb_sound fresh fun db called => ?_
    obtain ⟨row, seed, -, -, rfl⟩ := rewrapIdentitySeed_ok.mp (call_ok called)
    exact { before with }
  | setCommitting =>
    refine writeDb_sound fresh fun db called => ?_
    obtain ⟨pending, -, rfl⟩ := updateRotationPhase_ok.mp (call_ok called)
    exact { before with phase := by simp [phaseAt] }
  | commit =>
    refine writeDb_sound fresh fun db called => ?_
    obtain ⟨row, seed, -, -, rfl⟩ := commitRotation_ok.mp (call_ok called)
    exact { before with configEpoch := False.elim }
  | writeProvider =>
    cases fault : i.providerFault with
    | some e =>
      simp only [Inputs.provider, fault]
      exact sound_fail fresh
    | none =>
      simp only [Inputs.provider, fault]
      exact ⟨fresh, { before with }⟩
  | deletePending =>
    cases i.storageFault with
    | some e => exact ⟨fresh, { before with }⟩
    | none => exact ⟨fresh, { before with phase := by simp [phaseAt] }⟩
  | swapKey => exact ⟨fresh, { before with memory := rfl }⟩
  | clearKey =>
    have memory : m.store.masterKey = job.newKey := before.memory
    simp only [Job.returned, fresh, Sound, store, memory]
    exact before.readable

theorem write_readable {w : Write} {nodeKey : String → Bytes32} {phoneKey : Nat → Bytes32}
    (readable : Readable c nodeKey phoneKey ledger s.db.nodes s.db.phonePsks)
    (nodesSuit : ∀ nodeId, w.TouchesNode s nodeId → s.masterKey = nodeKey nodeId)
    (phonesSuit : ∀ phoneId, w.TouchesPhone s phoneId → s.masterKey = phoneKey phoneId) :
    Readable c nodeKey phoneKey (w.run c s ledger).2 (w.run c s ledger).1.db.nodes (w.run c s ledger).1.db.phonePsks := by
  constructor
  · intro nodeId row found
    rcases Write.run_nodes found with ⟨old, same⟩ | ⟨touched, ⟨nonce, psk, encrypted, last⟩, -⟩
    · obtain ⟨psk, known, reads⟩ := readable.nodes nodeId row old
      exact ⟨psk, same.trans known, reads⟩
    · exact ⟨psk, last, by rw [encrypted, ← nodesSuit nodeId touched, decryptPsk_encryptPsk]⟩
  · intro phoneId row found
    rcases Write.run_phones found with ⟨old, same⟩ | ⟨touched, ⟨nonce, psk, encrypted, last⟩, -⟩
    · obtain ⟨psk, known, reads⟩ := readable.phones phoneId row old
      exact ⟨psk, same.trans known, reads⟩
    · exact ⟨psk, last, by rw [encrypted, ← phonesSuit phoneId touched, decryptPhonePsk_encryptPhonePsk]⟩

theorem write_coherent {w : Write} (before : Coherent c job pc s ledger)
    (nodesSuit : ∀ nodeId, w.TouchesNode s nodeId → s.masterKey = nodeKeyAt job pc nodeId)
    (phonesSuit : ∀ phoneId, w.TouchesPhone s phoneId → s.masterKey = phoneKeyAt job pc phoneId) :
    Coherent c job pc (w.run c s ledger).1 (w.run c s ledger).2 := by
  obtain ⟨memory, -, -, epoch, -, pending⟩ := w.run_frame c s ledger
  refine {
    distinct := before.distinct
    memory := memory.trans before.memory
    readable := write_readable before.readable nodesSuit phonesSuit
    nodeEpochs := ?_
    phoneEpochs := ?_
    configEpoch := fun unlisted => epoch ▸ before.configEpoch unlisted
    phase := pending ▸ before.phase }
  · intro unlisted nodeId row found
    rcases Write.run_nodes found with ⟨old, -⟩ | ⟨-, -, -, stamped⟩
    · exact before.nodeEpochs unlisted nodeId row old
    · exact before.configEpoch (by cases pc <;> simp_all [NodesUnlisted, PhonesUnlisted]) _ stamped
  · intro unlisted phoneId row found
    rcases Write.run_phones found with ⟨old, -⟩ | ⟨-, -, -, stamped⟩
    · exact before.phoneEpochs unlisted phoneId row old
    · exact before.configEpoch unlisted _ stamped

variable {w : World Blob}

theorem rotate_sound (sound : w.Sound c) : (w.step c (.rotate i)).Sound c := by
  obtain ⟨⟨s, provider, task⟩, ledger⟩ := w
  cases task with
  | rotating job pc => exact rotationStep_sound sound.1 sound.2
  | rotated result => exact sound
  | _ => exact sound.elim

theorem write_sound {write : Write} (sound : w.Sound c) (suits : Suits w.machine write) :
    (w.step c (.write write)).Sound c := by
  obtain ⟨⟨s, provider, task⟩, ledger⟩ := w
  cases task with
  | rotating job pc => exact ⟨sound.1, write_coherent sound.2 suits.1 suits.2⟩
  | rotated result =>
    cases result with
    | error e => exact trivial
    | ok u =>
      have memory := (write.run_frame c s ledger).1
      simp only [Sound, step, store, memory]
      exact write_readable sound (fun _ _ => rfl) (fun _ _ => rfl)
  | _ => exact sound.elim

theorem run_sound {events : List Event} (sound : w.Sound c) (undisturbed : Undisturbed c events w) :
    (w.run c events).Sound c := by
  induction events generalizing w with
  | nil => exact sound
  | cons event rest ih =>
    cases event with
    | rotate i => exact ih (rotate_sound sound) undisturbed
    | write write => exact ih (write_sound sound undisturbed.1) undisturbed.2

structure AtRest (c : IdealCrypto Blob) (s : Store Blob) (ledger : Ledger) (epoch : Nat) : Prop where
  readable : Readable c (fun _ => s.masterKey) (fun _ => s.masterKey) ledger s.db.nodes s.db.phonePsks
  configEpoch : s.db.masterKeyEpoch = some epoch
  nodeEpochs : s.db.nodes.ForAll fun _ row => row.masterKeyEpoch ≤ epoch
  phoneEpochs : s.db.phonePsks.ForAll fun _ row => row.masterKeyEpoch ≤ epoch

theorem startRotation_sound {newKey : Bytes32} {epoch : Nat} (rest : AtRest c m.store ledger epoch) :
    Sound c ⟨m.startRotation c newKey (epoch + 1), ledger⟩ := by
  refine ⟨rfl, {
    distinct := trivial
    memory := rfl
    readable := rest.readable
    nodeEpochs := fun _ => rest.nodeEpochs.mono fun _ _ => Nat.lt_succ_of_le
    phoneEpochs := fun _ => rest.phoneEpochs.mono fun _ _ => Nat.lt_succ_of_le
    configEpoch := ?_
    phase := by simp [phaseAt] }⟩
  intro _ stored found
  rw [show stored = epoch from Option.some.inj (found.symm.trans rest.configEpoch)]
  exact Nat.lt_succ_self epoch

theorem rotation_keeps_psks (newKey : Bytes32) (epoch : Nat) (events : List Event)
    (rest : AtRest c m.store ledger epoch)
    (undisturbed : Undisturbed c events ⟨m.startRotation c newKey (epoch + 1), ledger⟩)
    (finished : (World.run c ⟨m.startRotation c newKey (epoch + 1), ledger⟩ events).machine.task = .rotated (.ok ())) :
    let after := run c ⟨m.startRotation c newKey (epoch + 1), ledger⟩ events
    after.store.db.nodes.ForAll (NodeReads c after.store.masterKey after.ledger) ∧
      after.store.db.phonePsks.ForAll (PhoneReads c after.store.masterKey after.ledger) := by
  have sound := run_sound (startRotation_sound rest) undisturbed
  rw [Sound, finished] at sound
  exact ⟨sound.nodes, sound.phones⟩

def calm : Inputs := ⟨0, fun _ => 0, "ABC123", none, none⟩

def smallRow (epoch : Nat) : NodeRow SymbolicBlob := nodeRow symbolicCrypto 1 0 1 epoch (NodeRecord.new "a" 10 100)

def smallMachine (rowEpoch : Nat) : Machine SymbolicBlob where
  store := {
    db := {
      nodes := AList.singleton "a" (smallRow rowEpoch)
      phonePsks := ∅
      phoneSequence := 0
      programs := ∅
      masterKeyId := some 1
      masterKeyEpoch := some 1
      rotationCode := none
      identity := some ⟨encryptSeed symbolicCrypto 1 0 55 66, none, 66, 77⟩
      pendingRotation := none
      pendingRecovery := ∅ }
    masterKey := 1
    rotationKeyState := none }
  provider := 1
  task := .off

def smallLedger : Ledger := ⟨fun nodeId => if nodeId = "a" then some 100 else none, fun _ => none⟩

def registration : Event := .write (.upsertNode 0 (NodeRecord.new "b" 11 200))

def registered (before after : Nat) : World SymbolicBlob :=
  run symbolicCrypto ⟨(smallMachine 1).startRotation symbolicCrypto 2 2, smallLedger⟩
    (List.replicate before (.rotate calm) ++ registration :: List.replicate after (.rotate calm))

theorem smallMachine_only {rowEpoch : Nat} {row : NodeRow SymbolicBlob}
    (found : (smallMachine rowEpoch).store.db.nodes.lookup nodeId = some row) :
    nodeId = "a" ∧ row = smallRow rowEpoch := by
  have member := AList.mem_lookup_iff.mp found
  simpa [smallMachine, Sigma.mk.injEq] using member

theorem smallMachine_atRest : AtRest symbolicCrypto (smallMachine 1).store smallLedger 1 := by
  refine ⟨⟨?_, by intro; simp [smallMachine]⟩, rfl, ?_, by intro; simp [smallMachine]⟩
  · intro nodeId row found
    obtain ⟨rfl, rfl⟩ := smallMachine_only found
    exact ⟨100, rfl, rfl⟩
  · intro nodeId row found
    obtain ⟨rfl, rfl⟩ := smallMachine_only found
    exact le_refl 1

theorem rotation_keeps_psks_early : AtRest symbolicCrypto (smallMachine 1).store smallLedger 1 ∧
      (registered 1 16).machine.task = .rotated (.ok ()) ∧ (registered 1 16).store.db.nodes.ForAll
        (NodeReads symbolicCrypto (registered 1 16).store.masterKey (registered 1 16).ledger) := by
  refine ⟨smallMachine_atRest, rfl, (rotation_keeps_psks 2 1 _ smallMachine_atRest ?_ rfl).1⟩
  exact ⟨⟨fun _ _ => rfl, fun _ => False.elim⟩, trivial⟩

-- The node is registered after the listing: the rotation returns Ok and never re-encrypts it.
theorem rotation_loses_registered_node : AtRest symbolicCrypto (smallMachine 1).store smallLedger 1 ∧
      (registered 5 11).machine.task = .rotated (.ok ()) ∧
      ∃ row, (registered 5 11).store.db.nodes.lookup "b" = some row ∧ (registered 5 11).ledger.nodes "b" = some 200 ∧
        ∀ psk, decryptPsk symbolicCrypto (registered 5 11).store.masterKey "b" row.psk ≠ .ok psk := by
  refine ⟨smallMachine_atRest, rfl, _, rfl, rfl, ?_⟩
  intro psk
  have refused : decryptPsk symbolicCrypto 2 "b" (encryptPsk symbolicCrypto 1 0 "b" 200) =
      .error (.internal "psk decryption failed — wrong master key or data corruption") := rfl
  exact fun reads => by cases refused.symm.trans reads

end Sonde.Gateway
