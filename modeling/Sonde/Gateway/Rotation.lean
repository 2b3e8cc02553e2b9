import Sonde.Gateway.Storage

namespace Sonde.Gateway
open Lib

/-! ## The machine -/

-- The arguments of `execute_rotation_phases`, and which of its two callers runs it.
structure Job where
  oldKey : Bytes32
  newKey : Bytes32
  newKeyId : Bytes32
  newEpoch : Nat
  resumed : Bool

-- One position for every storage, key provider or key register access of a rotation.
inductive RotationPc where
  | writePending
  | setRotationKey
  | readMigrating
  | listNodes
  | migrateNodes (todo : List String)
  | migratePhones (todo : List Nat)
  | readRewrapping
  | rewrap
  | setCommitting
  | readCommitting
  | commit
  | writeProvider
  | deletePending
  | swapKey
  | clearKey
  deriving DecidableEq, Repr

structure RotationCompleteNotification where
  newMasterKeyId : Bytes32
  newEpoch : Nat

inductive Task (Blob : Type) where
  | off
  | migrateLegacy
  | openStore
  | readPending
  | readEpoch (pending : PendingRotationRecord Blob)
  | deleteStale
  | loadProvider (pending : PendingRotationRecord Blob)
  | swapStale (pending : PendingRotationRecord Blob) (providerKey : Bytes32)
  | deleteMarker (pending : PendingRotationRecord Blob)
  | writeRecovered (pending : PendingRotationRecord Blob) (newKey : Bytes32)
  | deleteRecovered (pending : PendingRotationRecord Blob) (newKey : Bytes32)
  | swapRecovered (pending : PendingRotationRecord Blob) (newKey : Bytes32)
  | rotating (job : Job) (pc : RotationPc)
  | rotated (result : Except String Unit)
  | resumed (result : Except String (Option RotationCompleteNotification))
  | stopped (message : String)

structure Machine (Blob : Type) where
  store : Store Blob
  provider : Bytes32
  task : Task Blob

-- What a step takes from outside: random bytes, and whether the database or the key provider fails.
structure Inputs where
  nonce : BitVec 96
  nonces : String → BitVec 96
  code : String
  storageFault : Option StorageError
  providerFault : Option String

variable {Blob : Type}

def Inputs.call {α : Type} (i : Inputs) (what : String) (result : Except StorageError α) : Except String α :=
  match i.storageFault with
  | some e => .error s!"{what}: {e}"
  | none =>
    match result with
    | .ok a => .ok a
    | .error e => .error s!"{what}: {e}"

theorem call_ok {i : Inputs} {α : Type} {what : String} {result : Except StorageError α} {a : α}
    (called : i.call what result = .ok a) : result = .ok a := by
  unfold Inputs.call at called
  split at called
  · cases called
  · split at called
    · simpa using called
    · cases called

def Inputs.provider {α : Type} (i : Inputs) (what : String) (a : α) : Except String α :=
  match i.providerFault with
  | some e => .error s!"{what}: {e}"
  | none => .ok a

def Job.returned (job : Job) (result : Except String Unit) : Task Blob :=
  if job.resumed then .resumed (result.map fun _ => some ⟨job.newKeyId, job.newEpoch⟩) else .rotated result

-- `resume_pending_rotation` wraps the errors of the phases it runs.
def Job.phaseError (job : Job) (message : String) : String :=
  if job.resumed then s!"crash recovery failed: {message}" else message

namespace Machine

variable (m : Machine Blob)

def fail (job : Job) (message : String) : Machine Blob := { m with task := job.returned (.error message) }

def goto (job : Job) (pc : RotationPc) : Machine Blob := { m with task := .rotating job pc }

def withDb (db : Db Blob) : Machine Blob := { m with store := { m.store with db := db } }

def writeDb (job : Job) (result : Except String (Db Blob)) (next : RotationPc) : Machine Blob :=
  match result with
  | .ok db => (m.withDb db).goto job next
  | .error e => m.fail job (job.phaseError e)

def readPhase (i : Inputs) (job : Job) (disappeared : String) (phase : RotationPhase)
    (run skip : RotationPc) : Machine Blob :=
  match i.call "read pending_rotation" (.ok m.store.db.pendingRotation) with
  | .error e => m.fail job (job.phaseError e)
  | .ok none => m.fail job (job.phaseError disappeared)
  | .ok (some pending) => m.goto job (if pending.phase = phase then run else skip)

def rotationStep (c : IdealCrypto Blob) (i : Inputs) (job : Job) (pc : RotationPc) (m : Machine Blob) : Machine Blob :=
  match pc with
  | .writePending =>
    match i.call "prepare failed" (writePendingRotation c i.nonce job.newKey job.newKeyId job.newEpoch m.store) with
    | .ok s => { m with store := s }.goto job .setRotationKey
    | .error e => m.fail job e
  | .setRotationKey =>
    { m with store := { m.store with rotationKeyState := some ⟨job.newKey, job.newEpoch⟩ } }.goto job .readMigrating
  | .readMigrating =>
    m.readPhase i job "pending_rotation disappeared during execution" .migratingPsks .listNodes .readRewrapping
  | .listNodes =>
    match i.call "list unmigrated nodes" (listUnmigratedNodeIds job.newEpoch m.store.db) with
    | .ok nodeIds => m.goto job (.migrateNodes nodeIds)
    | .error e => m.fail job (job.phaseError e)
  | .migrateNodes (nodeId :: todo) =>
    m.writeDb job (i.call s!"migrate node `{nodeId}`"
      (migrateNodePsk c i.nonce nodeId job.oldKey job.newKey job.newKeyId job.newEpoch m.store.db))
      (.migrateNodes todo)
  | .migrateNodes [] =>
    match i.call "list unmigrated phones" (listUnmigratedPhoneIds job.newEpoch m.store.db) with
    | .ok phoneIds => m.goto job (.migratePhones phoneIds)
    | .error e => m.fail job (job.phaseError e)
  | .migratePhones (phoneId :: todo) =>
    m.writeDb job (i.call s!"migrate phone {phoneId}"
      (migratePhonePsk c i.nonce phoneId job.oldKey job.newKey job.newKeyId job.newEpoch m.store.db))
      (.migratePhones todo)
  | .migratePhones [] =>
    m.writeDb job (i.call "update phase to rewrapping_identity"
      (updateRotationPhase .rewrappingIdentity m.store.db)) .readRewrapping
  | .readRewrapping => m.readPhase i job "pending_rotation disappeared" .rewrappingIdentity .rewrap .readCommitting
  | .rewrap =>
    m.writeDb job (i.call "rewrap identity seed" (rewrapIdentitySeed c i.nonce job.oldKey job.newKey m.store.db))
      .setCommitting
  | .setCommitting =>
    m.writeDb job (i.call "update phase to committing" (updateRotationPhase .committing m.store.db)) .readCommitting
  | .readCommitting => m.readPhase i job "pending_rotation disappeared" .committing .commit .writeProvider
  | .commit =>
    m.writeDb job (i.call "commit rotation" (commitRotation i.code job.newKeyId job.newEpoch m.store.db))
      .writeProvider
  | .writeProvider =>
    let what := if job.resumed then "crash recovery: key provider write" else "key provider write failed"
    match i.provider what job.newKey with
    | .ok key => { m with provider := key }.goto job .deletePending
    | .error e => m.fail job e
  | .deletePending =>
    -- A failed delete is only logged: the next start removes the row.
    match i.storageFault with
    | some _ => m.goto job .swapKey
    | none => (m.withDb (deletePendingRotation m.store.db)).goto job .swapKey
  | .swapKey => { m with store := { m.store with masterKey := job.newKey } }.goto job .clearKey
  | .clearKey => { m with store := { m.store with rotationKeyState := none }, task := job.returned (.ok ()) }

def resumeError (message : String) : Machine Blob := { m with task := .resumed (.error message) }

def deleteThen (i : Inputs) (what : String) (next : Task Blob) : Machine Blob :=
  match i.call what (.ok (deletePendingRotation m.store.db)) with
  | .ok db => { m.withDb db with task := next }
  | .error e => m.resumeError e

def notify (pending : PendingRotationRecord Blob) : Task Blob :=
  .resumed (.ok (some ⟨pending.newMasterKeyId, pending.newEpoch⟩))

def step (c : IdealCrypto Blob) (i : Inputs) (m : Machine Blob) : Machine Blob :=
  match m.task with
  | .off =>
    match i.providerFault with
    | some e => { m with task := .stopped e }
    | none => { m with store := { m.store with masterKey := m.provider }, task := .migrateLegacy }
  | .migrateLegacy =>
    match i.storageFault with
    | some e => { m with task := .stopped (toString e) }
    | none => { m.withDb (migrateLegacyPsks c i.nonces m.store.masterKey m.store.db) with task := .openStore }
  | .openStore =>
    match i.storageFault, Gateway.openStore c m.store.masterKey m.store.db with
    | none, .ok s => { m with store := s, task := .readPending }
    | none, .error e | some e, _ => { m with task := .stopped (toString e) }
  | .readPending =>
    match i.call "read pending_rotation at startup" (.ok m.store.db.pendingRotation) with
    | .error e => m.resumeError e
    | .ok none => { m with task := .resumed (.ok none) }
    | .ok (some pending) => { m with task := .readEpoch pending }
  | .readEpoch pending =>
    match i.call "get_master_key_epoch" (.ok (getMasterKeyEpoch m.store.db)) with
    | .error e => m.resumeError e
    | .ok dbEpoch =>
      if pending.newEpoch < dbEpoch then { m with task := .deleteStale }
      else if dbEpoch = pending.newEpoch then { m with task := .loadProvider pending }
      else
        match decryptPendingNewKey c m.store.masterKey pending.newMasterKeyEnc with
        | .error e => m.resumeError s!"decrypt pending new key: {e}"
        | .ok newKey =>
          m.goto ⟨m.store.masterKey, newKey, pending.newMasterKeyId, pending.newEpoch, true⟩ .setRotationKey
  | .deleteStale => m.deleteThen i "delete stale pending_rotation" (.resumed (.ok none))
  | .loadProvider pending =>
    match i.provider "load provider key for recovery" m.provider with
    | .error e => m.resumeError e
    | .ok providerKey =>
      match decryptPendingNewKey c m.store.masterKey pending.newMasterKeyEnc with
      | .error _ => { m with task := .swapStale pending providerKey }
      | .ok newKey =>
        if providerKey = newKey then { m with task := .deleteRecovered pending newKey }
        else { m with task := .writeRecovered pending newKey }
  | .swapStale pending providerKey =>
    { m with store := { m.store with masterKey := providerKey }, task := .deleteMarker pending }
  | .deleteMarker pending => m.deleteThen i "delete pending_rotation" (notify pending)
  | .writeRecovered pending newKey =>
    match i.provider "post-commit recovery: key provider write" newKey with
    | .ok key => { m with provider := key, task := .deleteRecovered pending newKey }
    | .error e => m.resumeError e
  | .deleteRecovered pending newKey => m.deleteThen i "delete pending_rotation" (.swapRecovered pending newKey)
  | .swapRecovered pending newKey =>
    { m with store := { m.store with masterKey := newKey }, task := notify pending }
  | .rotating job pc => m.rotationStep c i job pc
  | .rotated _ | .resumed _ | .stopped _ => m

-- Losing power keeps the database and the key provider and loses the key registers.
def crash : Machine Blob := { m with store := { m.store with masterKey := 0, rotationKeyState := none }, task := .off }

-- `execute_rotation`, called when no rotation is under way.
def startRotation (c : IdealCrypto Blob) (newKey : Bytes32) (newEpoch : Nat) (m : Machine Blob) : Machine Blob :=
  m.goto ⟨m.store.masterKey, newKey, c.sha256 newKey, newEpoch, false⟩ .writePending

end Machine

end Sonde.Gateway
