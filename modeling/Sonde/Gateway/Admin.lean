import Sonde.Gateway.Crypto
import Sonde.Gateway.Tasks
import Sonde.Protocol.SourceFilename

namespace Sonde.Engine
open Lib Protocol Sonde.Gateway Program

inductive Status where
  | invalidArgument (message : String)
  | notFound (message : String)
  | alreadyExists (message : String)
  | internal (message : String)
  | failedPrecondition (message : String)

inductive AdminCall where
  | getNode | getProgram | ephemeralProgram | storeProgram | upsertNode | deleteNode

abbrev AdminFaults := AdminCall → Option StorageError

def storageErrWithContext (operation : String) (e : StorageError) : Status :=
  match e with
  | .notFound _ => .notFound s!"{operation}: {e}"
  | .internal _ => .internal s!"{operation}: {e}; check database file permissions and disk space"

def storageErr (e : StorageError) : Status :=
  match e with
  | .notFound _ => .notFound s!"{e}"
  | .internal _ => .internal s!"{e}"

def hexDigit (n : Nat) : Char := Char.ofNat (if n < 10 then 48 + n else 87 + n)

def fmtHex (data : Bytes) : String :=
  String.ofList (data.flatMap fun b => [hexDigit (b.toNat / 16), hexDigit (b.toNat % 16)])

def programHashLen : Nat := 32

def validateProgramHashBytes (operation : String) (hash : Bytes) : Except Status String :=
  let length := hash.length
  if length ≠ programHashLen then
    .error (.invalidArgument s!"{operation} failed: program_hash must be {programHashLen} bytes (got {length})")
  else .ok (fmtHex hash)

variable {ε : Type}

def storageCall {α : Type} (holds : Option String) (fault : Option StorageError) (failed : StorageError → ε)
    (access : Access) (m : Program Gateway ε α) : Task Gateway Label ε α :=
  match fault with
  | some e => .stop (failed e)
  | none => .atomic ⟨holds, access⟩ m

def foundOr {α : Type} (missing : ε) : Option α → Task Gateway Label ε α
  | some a => pure a
  | none => .stop missing

def getNode (faults : AdminFaults) (failed : StorageError → ε) (missing : ε) (nodeId : String) :
    Task Gateway Label ε NodeRecord := do
  let found ← storageCall none (faults .getNode) failed .other (read fun g => g.nodes.lookup nodeId)
  foundOr missing found

def writeNode (record : NodeRecord) : Program Gateway ε Unit :=
  update fun g => { g with nodes := g.nodes.insert record.nodeId record }

def editPending (nodeId : String) (edit : List PendingCommand → List PendingCommand) : Program Gateway ε Unit :=
  update fun g => { g with pendingCommands := Function.update g.pendingCommands nodeId (edit (g.pendingCommands nodeId)) }

/-! ## Admin API -/

abbrev AdminTask := Task Gateway Label Status

section
variable (faults : AdminFaults) (nodeId : String)

def assignProgramImpl (programHash : Bytes) : AdminTask Unit := do
  let programHashHex ← .ofExcept (validateProgramHashBytes "assign program" programHash)
  let node ← getNode faults (storageErrWithContext s!"assign program: look up node `{nodeId}`")
    (.notFound s!"assign program failed: node `{nodeId}` not found; use ListNodes to verify the node_id") nodeId
  let found ← storageCall (some node.nodeId) (faults .getProgram)
    (storageErrWithContext s!"assign program: look up program `{programHashHex}`") .other
    (read fun g => g.programs programHash)
  let _ ← foundOr (.notFound (s!"assign program failed: program `{programHashHex}` not found; " ++
    "use IngestProgram to upload it first, then ListPrograms to verify")) found
  storageCall (some node.nodeId) (faults .upsertNode)
    (storageErrWithContext s!"assign program: update node `{nodeId}` with program `{programHashHex}`")
    (.upsertNode node [.assignedProgramHash (some programHash)])
    (writeNode { node with assignedProgramHash := some programHash })

def setScheduleImpl (intervalS : Nat) : AdminTask Unit := do
  let node ← getNode faults storageErr (.notFound s!"node `{nodeId}` not found") nodeId
  storageCall (some node.nodeId) (faults .upsertNode) storageErr
    (.upsertNode node [.desiredScheduleIntervalS (some intervalS), .scheduleIntervalS intervalS])
    (writeNode { node with desiredScheduleIntervalS := some intervalS, scheduleIntervalS := intervalS })
  .atomic ⟨some node.nodeId, .other⟩ (editPending nodeId fun commands =>
    commands.filter (fun c => (scheduleInterval c).isNone) ++ [.updateSchedule intervalS])

def registerNode (keyHint : Nat) (psk : Bytes) : AdminTask Unit :=
  let length := psk.length
  if length ≠ 32 then .stop (.invalidArgument s!"`psk` must be exactly 32 bytes, got {length}")
  else if nodeId = "" then .stop (.invalidArgument "`node_id` must not be empty")
  else if keyHint > 65535 then .stop (.invalidArgument s!"`key_hint` must be <= 65535, got {keyHint}")
  else do
    let found ← storageCall none (faults .getNode) storageErr .other (read fun g => g.nodes.lookup nodeId)
    if found.isSome then .stop (.alreadyExists s!"node `{nodeId}` is already registered")
    else
      let record := NodeRecord.new nodeId (BitVec.ofNat 16 keyHint) (BitVec.ofNat 256 (ofBigEndian psk))
      storageCall none (faults .upsertNode) storageErr (.registerNode record) (writeNode record)

def removeNode : AdminTask Unit := do
  let _ ← getNode faults storageErr (.notFound s!"node `{nodeId}` not found") nodeId
  storageCall none (faults .deleteNode) storageErr (.deleteNode nodeId)
    (update fun g => { g with nodes := g.nodes.erase nodeId })
  .atomic ⟨none, .removeSession nodeId⟩ (update fun g => { g with sessionManager := g.sessionManager.removeSession nodeId })

def factoryReset : AdminTask Unit := do
  removeNode faults nodeId
  .atomic ⟨none, .other⟩ (editPending nodeId fun _ => [])

def queueRebootImpl : AdminTask Unit := do
  let _ ← getNode faults storageErr (.notFound s!"node `{nodeId}` not found") nodeId
  .atomic ⟨none, .other⟩ (editPending nodeId (· ++ [.reboot]))

def profileName : VerificationProfile → String
  | .resident => "Resident"
  | .ephemeral => "Ephemeral"

def queueEphemeralImpl (programHash : Bytes) : AdminTask Unit := do
  let programHashHex ← .ofExcept (validateProgramHashBytes "queue ephemeral" programHash)
  let _ ← getNode faults (storageErrWithContext s!"queue ephemeral: look up node `{nodeId}`")
    (.notFound s!"queue ephemeral failed: node `{nodeId}` not found; use ListNodes to verify") nodeId
  let found ← storageCall none (faults .getProgram)
    (storageErrWithContext s!"queue ephemeral: look up program `{programHashHex}`") .other
    (read fun g => g.programs programHash)
  let program ← foundOr (.notFound (s!"queue ephemeral failed: program `{programHashHex}` not found; " ++
    "use IngestProgram to upload it first")) found
  if program.verificationProfile ≠ .ephemeral then
    let profile := profileName program.verificationProfile
    .stop (.failedPrecondition (s!"queue ephemeral failed: program `{programHashHex}` has {profile} " ++
      "verification profile, expected Ephemeral"))
  else .atomic ⟨none, .other⟩ (editPending nodeId (· ++ [.runEphemeral programHash]))

end

/-! ## Connector -/

structure ConnectorLibraries where
  ingestElf : Bytes → VerificationProfile → Except String ProgramRecord
  statusText : Status → String

def elfMagic : Bytes := [0x7f, 0x45, 0x4c, 0x46]

variable (lib : ConnectorLibraries) (faults : AdminFaults) (nodeId : String)

-- As in a release build, which takes ELF files only.
def ingestProgram (imageData : Bytes) (profile : VerificationProfile)
    (abiVersion : Option Nat) (sourceFilename : Option String) : AdminTask Unit := do
  let sourceFilename := normalizeDisplayFilename sourceFilename
  let source := sourceFilename.getD "<unknown>"
  let size := imageData.length
  if imageData.take 4 ≠ elfMagic then
    .stop (.invalidArgument (s!"program ingestion failed (source: {source}, size: {size} bytes): " ++
      "non-ELF program images are not accepted in this build; " ++
      "submit an ELF binary so the gateway can verify it with Prevail"))
  else do
    let record ← .ofExcept ((lib.ingestElf imageData profile).mapError fun e =>
      .invalidArgument (s!"program ingestion failed (source: {source}, size: {size} bytes): {e}; " ++
        "check that the BPF program compiles for the sonde target"))
    let hash := fmtHex record.hash
    let stored := { record with abiVersion, sourceFilename := normalizeDisplayFilename sourceFilename }
    storageCall none (faults .storeProgram) (storageErrWithContext s!"store program (hash: {hash}, source: {source})") .other
      (update fun g => { g with programs := Function.update g.programs record.hash (some stored) })

abbrev ConnectorTask := Task Gateway Label String

abbrev DesiredState := List (Cbor × Cbor)

def mapGet (map : DesiredState) (key : Nat) : Option Cbor := (map.find? fun entry => asU64 entry.1 = some key).map (·.2)

def optionalBytesField (map : DesiredState) (key : Nat) (field : String) : Except String (Option Bytes) :=
  match mapGet map key with
  | some (.bytes data) => .ok (some data)
  | some .null | none => .ok none
  | some _ => .error s!"`{field}` must be bstr or null"

def optionalU32Field (map : DesiredState) (key : Nat) (field : String) : Except String (Option Nat) :=
  match mapGet map key with
  | some .null | none => .ok none
  | some value =>
    match asNatBelow (2 ^ 32) value with
    | some n => .ok (some n)
    | none => .error s!"`{field}` must be uint or null"

def optionalTextField (map : DesiredState) (key : Nat) (field : String) : Except String (Option String) :=
  match mapGet map key with
  | some (.text utf8) => .ok (some (textString utf8))
  | some .null | none => .ok none
  | some _ => .error s!"`{field}` must be text or null"

def verificationProfile (name : Option String) : Except String VerificationProfile :=
  match name with
  | some "resident" | none => .ok .resident
  | some "ephemeral" => .ok .ephemeral
  | some other =>
    .error s!"`assigned_program_verification_profile` must be \"resident\" or \"ephemeral\", got \"{other}\""

-- The inline ELF of keys 5 to 8, up to its hash check.
def inlineProgram (desiredState : DesiredState) (declaredHash elf : Bytes) : Except String ProgramRecord := do
  let length := declaredHash.length
  if length ≠ 32 then throw s!"inline ELF declared hash must be exactly 32 bytes, got {length}"
  let name ← optionalTextField desiredState 6 "assigned_program_verification_profile"
  let profile ← verificationProfile name
  let sourceFilename ← optionalTextField desiredState 7 "assigned_program_source_filename"
  let abiVersion ← optionalU32Field desiredState 8 "assigned_program_abi_version"
  let record ← (lib.ingestElf elf profile).mapError fun e => s!"inline ELF verification failed: {e}"
  let ingested := fmtHex record.hash
  let declared := fmtHex declaredHash
  if record.hash ≠ declaredHash then
    throw s!"inline ELF hash mismatch: ingested `{ingested}` but declared `{declared}`"
  pure { record with sourceFilename, abiVersion }

def storeProgram (record : ProgramRecord) : Program Gateway String Unit :=
  let stored := { record with sourceFilename := normalizeDisplayFilename record.sourceFilename }
  update fun g => { g with programs := Function.update g.programs record.hash (some stored) }

def storeInlineProgram (desiredState : DesiredState)
    (assignedProgramHash inlineElf : Option Bytes) : ConnectorTask Unit :=
  match assignedProgramHash, inlineElf with
  | some declaredHash, some elf => do
    let record ← .ofExcept (inlineProgram lib desiredState declaredHash elf)
    storageCall (some nodeId) (faults .storeProgram) (fun e => s!"store inline program failed: {e}") .other
      (storeProgram record)
  | _, _ => pure ()

def checkProgramHash (context operation : String) (programHash : Bytes) : Except String String :=
  (validateProgramHashBytes operation programHash).mapError fun e =>
    let text := lib.statusText e
    s!"{context} failed: {text}"

def validateProgramExists (fault : Option StorageError) (nodeId context operation : String)
    (programHash : Bytes) : ConnectorTask ProgramRecord := do
  let programHashHex ← .ofExcept (checkProgramHash lib context operation programHash)
  let found ← storageCall (some nodeId) fault (fun e => s!"{context} failed: look up program `{programHashHex}`: {e}")
    .other (read fun g => g.programs programHash)
  foundOr s!"{context} failed: program `{programHashHex}` not found" found

def validateAssignedProgram (programHash : Bytes) : ConnectorTask Unit := do
  let _ ← validateProgramExists lib (faults .getProgram) nodeId "assign connector desired program" "assign program"
    programHash
  pure ()

def validateEphemeralProgram (programHash : Bytes) : ConnectorTask Unit := do
  let program ← validateProgramExists lib (faults .ephemeralProgram) nodeId "queue connector desired ephemeral"
    "queue ephemeral" programHash
  let programHashHex := fmtHex programHash
  if program.verificationProfile ≠ .ephemeral then
    .stop (s!"queue connector desired ephemeral failed: program `{programHashHex}` has Resident verification profile, " ++
      "expected Ephemeral")
  else pure ()

def ifPresent {α : Type} (a : Option α) (check : α → ConnectorTask Unit) : ConnectorTask Unit :=
  match a with
  | some a => check a
  | none => pure ()

-- The fields of the record that key 2 sets: without it the interval itself stays.
def scheduleUpdates : Option Nat → List FieldUpdate
  | some intervalS => [.desiredScheduleIntervalS (some intervalS), .scheduleIntervalS intervalS]
  | none => [.desiredScheduleIntervalS none]

def desiredRecord (node : NodeRecord) (assignedProgramHash : Option Bytes) : Option Nat → NodeRecord
  | some intervalS =>
    { node with assignedProgramHash, desiredScheduleIntervalS := some intervalS, scheduleIntervalS := intervalS }
  | none => { node with assignedProgramHash, desiredScheduleIntervalS := none }

def desiredQueue (scheduleIntervalS : Option Nat) (ephemeralProgramHash : Option Bytes) (commands : List PendingCommand) :
    List PendingCommand :=
  commands.filter (fun c => (scheduleInterval c).isNone ∧ (ephemeralHash c).isNone) ++
    (scheduleIntervalS.map .updateSchedule).toList ++ (ephemeralProgramHash.map .runEphemeral).toList

def loadExistingNode : ConnectorTask NodeRecord :=
  if nodeId = "" then .stop "node desired state requires a non-empty entity_id"
  else getNode faults (fun e => s!"lookup node `{nodeId}` failed: {e}") s!"node `{nodeId}` not found" nodeId

def applyNodeDesiredState (desiredState : DesiredState) : ConnectorTask Unit := do
  let node ← loadExistingNode faults nodeId
  let assignedProgramHash ← .ofExcept (optionalBytesField desiredState 1 "assigned_program_hash")
  let scheduleIntervalS ← .ofExcept (optionalU32Field desiredState 2 "schedule_interval_s")
  let ephemeralProgramHash ← .ofExcept (optionalBytesField desiredState 3 "ephemeral_program_hash")
  let inlineElf ← .ofExcept (optionalBytesField desiredState 5 "assigned_program_elf")
  if inlineElf.isSome ∧ assignedProgramHash.isNone then
    .stop ("`assigned_program_elf` (key 5) present but `assigned_program_hash` (key 1) missing; " ++
      "the entire DESIRED_STATE is rejected per GW-0811")
  else do
    storeInlineProgram lib faults node.nodeId desiredState assignedProgramHash inlineElf
    ifPresent assignedProgramHash (validateAssignedProgram lib faults node.nodeId)
    ifPresent ephemeralProgramHash (validateEphemeralProgram lib faults node.nodeId)
    storageCall (some node.nodeId) (faults .upsertNode) (fun e => s!"update node `{nodeId}` failed: {e}")
      (.upsertNode node (.assignedProgramHash assignedProgramHash :: scheduleUpdates scheduleIntervalS))
      (writeNode (desiredRecord node assignedProgramHash scheduleIntervalS))
    .atomic ⟨some node.nodeId, .other⟩ (editPending nodeId (desiredQueue scheduleIntervalS ephemeralProgramHash))

inductive Operation where
  | frame (lib : Libraries) (inputs : Inputs) (raw : Bytes)
  | assignProgram (faults : AdminFaults) (nodeId : String) (programHash : Bytes)
  | setSchedule (faults : AdminFaults) (nodeId : String) (intervalS : Nat)
  | applyNodeDesiredState (lib : ConnectorLibraries) (faults : AdminFaults) (nodeId : String) (desiredState : DesiredState)
  | registerNode (faults : AdminFaults) (nodeId : String) (keyHint : Nat) (psk : Bytes)
  | removeNode (faults : AdminFaults) (nodeId : String)

def Operation.task : Operation → Task Gateway Label Unit Unit
  | .frame lib inputs raw => (Concurrent.processFrame lib inputs raw).forget
  | .assignProgram faults nodeId programHash => (assignProgramImpl faults nodeId programHash).forget
  | .setSchedule faults nodeId intervalS => (setScheduleImpl faults nodeId intervalS).forget
  | .applyNodeDesiredState lib faults nodeId desiredState =>
    (Engine.applyNodeDesiredState lib faults nodeId desiredState).forget
  | .registerNode faults nodeId keyHint psk => (Engine.registerNode faults nodeId keyHint psk).forget
  | .removeNode faults nodeId => (Engine.removeNode faults nodeId).forget

abbrev Operations := Task.Pool Gateway Label Unit Unit

def started (g : Gateway) (operations : List Operation) : Operations := ⟨g, operations.map Operation.task⟩

def smallHash : Bytes := List.replicate 32 4

def transferGateway : Gateway :=
  { smallGateway with
    programs := fun _ => some ⟨smallHash, [1], 1, .resident, none, none, none⟩
    sessionManager := ⟨Function.update (fun _ => none) "n"
      (some ⟨"n", [], 1, 5, 0, .chunkedTransfer [9] 1 128 1 false, 0⟩), 30000, 1⟩ }

def smallAck : Operation := .frame plainLib smallInputs (smallFrame 5 (.programAck [9]) 7)

end Sonde.Engine
