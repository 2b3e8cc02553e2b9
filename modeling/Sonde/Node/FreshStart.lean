import Sonde.Lib.Run
import Sonde.Node.EphemeralIsolation

/-!
# The maps of a newly installed program

The image becomes active when it is installed, its maps are allocated later in the same cycle. A later cycle allocates only
if the layout differs.
-/

namespace Sonde.Node
open Lib Lib.Program Protocol MapStorage
open Bpf (Mem)

variable {τ : Type}

structure Execution.Fresh (execution : Execution) : Prop where
  layout : execution.maps.map (·.mapDef) = execution.program.mapDefs
  aligned : execution.program.mapInitialData.length = execution.maps.length
  bytes : ∀ (i : Nat) (map : MapInstance) (data : Bytes), execution.maps[i]? = some map →
    execution.program.mapInitialData[i]? = some data →
    map.data execution.mem = initialBytes map.mapDef (usable map.mapDef data)

def Device.activeImage (device : Device τ) : Option Bytes := device.storage.programs device.storage.activePartition

def Device.ran (device : Device τ) : Option Bytes :=
  device.executed.bind fun execution => if execution.program.isEphemeral then none else some execution.program.hash

/-- An image that is active unsettles every other one. -/
def seen (provider : Provider) (active settled : Option Bytes) : Option Bytes :=
  match active with
  | none => settled
  | some image => if settled = some (hashBytes provider image) then settled else none

/-- The node between two cycles. Since the image with hash `settled` was executed, or since the run began with it, no other
image has been active. `owner` is that hash just before the last cycle's execution. -/
structure ProgramRun (τ : Type) where
  device : Device τ
  settled : Option Bytes
  owner : Option Bytes

open ProgramRun

section
variable (provider : Provider) (reader : Cbor.Reader) (interpreter : BpfInterpreter (Host τ)) (space : AddressSpace)
  (board : BoardLayout)

def ProgramRun.start (device : Device τ) : ProgramRun τ :=
  ⟨{ device with executed := none }, device.activeImage.map (hashBytes provider), none⟩

structure Wakeup (τ : Type) where
  platform : Platform τ
  asleep : τ → τ

def ProgramRun.awoken (run : ProgramRun τ) (wakeup : Wakeup τ) : Device τ :=
  { run.device with host := run.device.host.setWorld (wakeup.asleep run.device.host.radio.world) }.boot space.mapBacking

def ProgramRun.after (run : ProgramRun τ) (awoken device : Device τ) : ProgramRun τ :=
  let owner := seen provider device.activeImage (seen provider awoken.activeImage run.settled)
  ⟨device, device.ran <|> owner, owner⟩

def ProgramRun.cycled (run : ProgramRun τ) (wakeup : Wakeup τ) : ProgramRun τ :=
  run.after provider (run.awoken space wakeup)
    (runWakeCycle wakeup.platform provider reader interpreter space board (run.awoken space wakeup)).2

/-- A resident program that is executed for the first time since another image was active finds fresh maps. -/
def ProgramRun.FreshStart (run : ProgramRun τ) : Prop :=
  ∀ execution, run.device.executed = some execution → execution.program.isEphemeral = false →
    run.owner ≠ some execution.program.hash → execution.Fresh

def installing (platform : Platform τ) (identity : NodeIdentity) (expectedHash : Bytes)
    (programSize chunkSize chunkCount budget : Nat) : Program (Device τ) NodeError LoadedProgram := do
  let imageBytes ← onRadio (chunkedTransfer platform.toLink provider reader identity programSize chunkSize chunkCount
    maxResidentImageSize)
  installResident platform provider reader imageBytes expectedHash budget

def transferStart (platform : Platform τ) (accepted : Accepted) (heard : Device τ) : Device τ :=
  ((do
    acceptCommand space accepted.command
    let _ ← ask platform.elapsedMs
    setQueue [] : Cycle τ Unit) heard).2

/-- When the cycle installs a program, the transport takes the PROGRAM_ACK. -/
def ProgramRun.Acked (run : ProgramRun τ) (wakeup : Wakeup τ) : Prop :=
  ∀ accepted heard expectedHash programSize chunkSize chunkCount program installed,
    awaitCommand wakeup.platform provider reader (run.awoken space wakeup) = (.ok accepted, heard) →
    accepted.command.payload = .updateProgram expectedHash programSize chunkSize chunkCount →
    installing provider reader wakeup.platform accepted.identity expectedHash programSize chunkSize chunkCount
      heard.mapStorage.budgetBytes (transferStart space wakeup.platform accepted heard) = (.ok program, installed) →
    (onRadio (sendProgramAck wakeup.platform.toLink provider accepted.identity program.hash) installed).1.isOk

/-- A read of the active partition gives what is stored; the default is 0. -/
def ReadsActive (platform : Platform τ) (activePartition : Nat) : Prop :=
  activePartition = 0 ∨ ∀ world, (platform.fails .readActivePartition world).1 = false

def NoCollision (platform : Platform τ) : Prop :=
  ∀ image world left, (platform.writeProgram image world).1.2 = some left →
    hashBytes provider left = hashBytes provider image → left = image

end

section
variable {platform : Platform τ} {provider : Provider} {reader : Cbor.Reader} {interpreter : BpfInterpreter (Host τ)}
  {space : AddressSpace} {board : BoardLayout} {identity : NodeIdentity} {ε α : Type} {still : Still}

def Still.activeImage (still : Still) : Option Bytes := still.programs still.activePartition

def ReadImage (provider : Provider) (still : Still) (programHash : Bytes) (residentImage : Option Bytes) : Prop :=
  ∀ image, residentImage = some image → still.activeImage = some image ∧ programHash = hashBytes provider image

abbrev Learns (still : Still) (m : Program (Device τ) ε α) (Q : α → Prop) : Prop :=
  Keeps (fun device => device.still = still) m Q

variable {m : Program (Device τ) ε α}

theorem unchanged (fixed : Fixes Device.still m) : Learns still m fun _ => True := Fixes.keeps (P := (· = still)) fixed

variable (reads : ReadsActive platform still.activePartition)

include reads in
theorem readSchedule_active :
    Learns still (readSchedule platform : Program (Device τ) ε (Nat × Nat)) fun schedule => schedule.2 = still.activePartition := by
  refine .bind (unchanged (readOr_quiet _ _ _).still) fun _ _ => .bind (P := (· = still.activePartition)) ?_
    fun _ read => .pure read
  intro device same
  rw [readOr_run]
  refine ⟨same, ?_⟩
  rintro _ ⟨⟩
  rw [show device.storage.activePartition = still.activePartition from congrArg Still.activePartition same]
  rcases reads with zero | never
  · rw [zero, ite_self]
  · exact if_neg (Bool.eq_false_iff.mp (never _))

theorem readProgram_learns (partition : Nat) :
    Learns still (readProgram platform partition : Program (Device τ) ε (Option Bytes))
      fun found => ∀ image, found = some image → still.programs partition = some image := by
  refine .bind (unchanged (ask_quiet _).still) fun fault _ => .ite (fun _ => .pure nofun) fun _ =>
    .read fun device same image found => ?_
  rw [← same]
  exact found

include reads in
theorem loadActiveRaw_reads :
    Learns still (loadActiveRaw platform provider : Program (Device τ) ε (Bytes × Option Bytes))
      fun raw => ReadImage provider still raw.1 raw.2 := by
  refine .bind (readSchedule_active reads) ?_
  rintro ⟨interval, active⟩ rfl
  refine .ite (fun _ => .pure nofun) fun _ => .bind (readProgram_learns _) fun found isImage => ?_
  cases found with
  | none => exact .pure nofun
  | some imageBytes =>
    refine .pure ?_
    rintro image ⟨⟩
    exact ⟨isImage imageBytes rfl, rfl⟩

include reads in
theorem prepareWake_reads : Learns still (prepareWake platform provider reader : Cycle τ _)
      fun prepared => ReadImage provider still prepared.2.1 prepared.2.2 := by
  refine .bind (unchanged startCycle_quiet.still) fun identity _ => .bind (unchanged registerPeer_still) fun _ _ =>
    .bind (loadActiveRaw_reads reads) ?_
  rintro ⟨programHash, residentImage⟩ isImage
  exact .pure isImage

include reads in
theorem awaitCommand_reads : Learns still (awaitCommand platform provider reader : Cycle τ Accepted)
      fun accepted => ReadImage provider still accepted.programHash accepted.residentImage := by
  refine .bind (prepareWake_reads reads) ?_
  rintro ⟨identity, programHash, residentImage⟩ isImage
  exact .bind (unchanged (exchangeWake_still _)) fun command _ => .pure isImage

/-! ### The installation -/

structure Unswitched (still after : Still) : Prop where
  active : after.activeImage = still.activeImage
  mapStorage : after.mapStorage = still.mapStorage
  executed : after.executed = still.executed

variable {after : Still}

theorem Unswitched.of_eq (same : after = still) : Unswitched still after := same ▸ ⟨rfl, rfl, rfl⟩

theorem Unswitched.trans {between : Still} (second : Unswitched between after) (first : Unswitched still between) :
    Unswitched still after :=
  ⟨second.active.trans first.active, second.mapStorage.trans first.mapStorage, second.executed.trans first.executed⟩

def Holds (provider : Provider) (reader : Cbor.Reader) (active : Option Bytes) (program : LoadedProgram) : Prop :=
  ∃ imageBytes, active = some imageBytes ∧ decodeImage reader imageBytes (hashBytes provider imageBytes) = some program

variable {program : LoadedProgram} {active : Option Bytes}

theorem Holds.loaded (holds : Holds provider reader active program) : ∃ imageBytes image, active = some imageBytes ∧
    ProgramImage.decode reader imageBytes = .ok image ∧ program = loadedFrom image (hashBytes provider imageBytes) false := by
  obtain ⟨imageBytes, held, decoded⟩ := holds
  unfold decodeImage at decoded
  split at decoded
  · rename_i image isImage
    exact ⟨imageBytes, image, held, isImage, (Option.some.inj decoded).symm⟩
  · cases decoded

theorem Holds.resident (holds : Holds provider reader active program) : program.isEphemeral = false := by
  obtain ⟨_, _, -, -, rfl⟩ := holds.loaded
  rfl

variable (provider reader still program) in
structure Installed (after : Still) : Prop where
  active : Holds provider reader after.activeImage program
  mapStorage : after.mapStorage = still.mapStorage
  executed : after.executed = still.executed

variable {budget : Nat}

theorem checkResident_ok {imageBytes expectedHash : Bytes} {image : ProgramImage}
    (checked : checkResident provider reader imageBytes expectedHash budget = .ok image) :
    hashBytes provider imageBytes = expectedHash ∧ ProgramImage.decode reader imageBytes = .ok image ∧
      requiredBytes image.maps ≤ budget := by
  unfold checkResident at checked
  split at checked
  · cases checked
  rename_i hash
  split at checked
  · cases checked
  rename_i decoded
  obtain ⟨_, -, checked⟩ := bind_eq_ok.mp checked
  dsimp only at checked
  split at checked
  · cases checked
  · rename_i fits
    cases checked
    exact ⟨not_not.mp hash, decoded, not_lt.mp fits⟩

def Still.written (still : Still) (left : Option Bytes) : Still :=
  { still with programs := Function.update still.programs (1 - still.activePartition) left }

def Still.switched (still : Still) (imageBytes : Bytes) : Still :=
  { still.written (some imageBytes) with activePartition := 1 - still.activePartition }

theorem Still.switched_activeImage (still : Still) (imageBytes : Bytes) :
    (still.switched imageBytes).activeImage = some imageBytes := Function.update_self ..

def Spared (still after : Still) : Prop := after = still ∨ ¬still.activePartition > 1 ∧ ∃ left, after = still.written left

theorem Spared.unswitched (spared : Spared still after) : Unswitched still after := by
  rcases spared with same | ⟨bound, left, rfl⟩
  · exact .of_eq same
  · have other : still.activePartition ≠ 1 - still.activePartition := by omega
    exact ⟨Function.update_of_ne other _ _, rfl, rfl⟩

theorem Spared.activePartition (spared : Spared still after) : after.activePartition = still.activePartition := by
  rcases spared with same | ⟨-, left, rfl⟩
  · exact congrArg Still.activePartition same
  · rfl

def Genuine (provider : Provider) (imageBytes : Bytes) (left : Option Bytes) : Prop :=
  ∀ found, left = some found → hashBytes provider found = hashBytes provider imageBytes → found = imageBytes

theorem writeProgram_writes (unique : NoCollision provider platform) (bound : ¬still.activePartition > 1)
    (imageBytes : Bytes) : Meets (fun device : Device τ => device.still = still)
      (writeProgram platform (1 - still.activePartition) imageBytes)
      (fun _ device => ∃ left, Genuine provider imageBytes left ∧ device.still = still.written left)
      fun device => Spared still device.still := by
  refine .bind (Q := fun result device => Genuine provider imageBytes result.2 ∧ device.still = still) ?_ ?_
  · exact ⟨fun device same => ⟨fun found isLeft => unique imageBytes device.host.radio.world found isLeft, same⟩⟩
  · rintro ⟨written, left⟩
    refine .given fun genuine => ?_
    refine .bind (Q := fun _ device => device.still = still.written left) (.update fun device same => ?_) fun _ => ?_
    · rw [← same]
      rfl
    · exact .ite (fun _ => .pure fun _ same => ⟨left, genuine, same⟩)
        fun _ => .stop fun device same => .inr ⟨bound, left, same⟩

theorem installResident_outcome {pre : Device τ → Prop} (starts : ∀ device, pre device → device.still = still)
    (reads : Meets pre (readSchedule platform : Program (Device τ) NodeError (Nat × Nat))
      (fun schedule device => schedule.2 = still.activePartition ∧ device.still = still) fun device => device.still = still)
    (unique : NoCollision provider platform) (imageBytes expectedHash : Bytes) (budget : Nat) :
    Meets pre (installResident platform provider reader imageBytes expectedHash budget)
      (fun program device => ∃ image, (checkResident provider reader imageBytes expectedHash budget = .ok image ∧
        program = loadedFrom image (hashBytes provider imageBytes) false) ∧ device.still = still.switched imageBytes)
      fun device => Spared still device.still := by
  refine .checked (fun device before => .inl (starts device before)) fun image checked => ?_
  obtain ⟨hash, -, -⟩ := checkResident_ok checked
  refine .bind (.early reads fun _ same => .inl same) ?_
  rintro ⟨interval, active⟩
  refine .given ?_
  rintro rfl
  refine .ite (fun _ => .stop fun _ same => .inl same) fun bound => ?_
  refine .bind (writeProgram_writes unique bound imageBytes) fun _ => .of_exists fun left genuine => ?_
  have spared {device : Device τ} (same : device.still = still.written left) : Spared still device.still :=
    .inr ⟨bound, left, same⟩
  refine .bind (.early (readProgram_learns _).meets fun _ same => spared same) fun found => .given fun isImage => ?_
  cases found with
  | none => exact .stop fun _ same => spared same
  | some writtenBytes =>
    refine .ite (fun _ => .stop fun _ same => spared same) fun verified => ?_
    have isLeft : Function.update still.programs (1 - still.activePartition) left (1 - still.activePartition) =
      some writtenBytes := isImage writtenBytes rfl
    rw [Function.update_self] at isLeft
    obtain rfl : writtenBytes = imageBytes := genuine writtenBytes isLeft ((not_not.mp verified).trans hash.symm)
    subst isLeft
    refine .bind (Q := fun _ device => device.still = still.switched writtenBytes) ?_
      fun _ => .pure fun _ same => ⟨image, ⟨checked, rfl⟩, same⟩
    refine .bind (.early (stands (ask_quiet _).still) fun _ same => spared same) fun fault =>
      .ite (fun _ => .stop fun _ same => spared same) fun _ => ?_
    refine .update fun device same => ?_
    unfold Still.switched
    rw [← same]
    rfl

variable (provider reader still) in
abbrev Installs (pre : Device τ → Prop) (m : Program (Device τ) ε LoadedProgram) : Prop :=
  Meets pre m (fun program device => Installed provider reader still program device.still)
    fun device => Unswitched still device.still

include reads in
theorem installResident_installs
    (unique : NoCollision provider platform) (imageBytes expectedHash : Bytes) (budget : Nat) :
    Installs provider reader still (fun device : Device τ => device.still = still)
      (installResident platform provider reader imageBytes expectedHash budget) := by
  refine .conseq (installResident_outcome (fun _ same => same) (readSchedule_active reads).meets unique imageBytes expectedHash
    budget) (fun _ same => same) ?_ fun _ spared => spared.unswitched
  rintro _ device ⟨image, ⟨checked, rfl⟩, same⟩
  rw [same]
  refine ⟨⟨imageBytes, still.switched_activeImage imageBytes, ?_⟩, rfl, rfl⟩
  simp [decodeImage, (checkResident_ok checked).2.1]

/-! ### The execution -/

structure Standing where
  active : Option Bytes
  mapStorage : MapStorage
  mem : Mem
  executed : Option Execution

open Standing

def Still.standing (still : Still) : Standing := ⟨still.activeImage, still.mapStorage, still.mem, still.executed⟩

def Device.standing (device : Device τ) : Standing := device.still.standing

theorem still_standing (fixed : Fixes Device.still m) : Fixes Device.standing m := fixed.comp Still.standing

def prepared (space : AddressSpace) (program : LoadedProgram) (installedThisCycle : Bool) (standing : Standing) :
    Option Standing :=
  if program.isEphemeral then if program.mapDefs ≠ [] then none else some standing
  else if installedThisCycle || !standing.mapStorage.layoutMatches program.mapDefs then
    match allocate space.mapBacking program.mapDefs (standing.mapStorage, standing.mem) with
    | (.error _, _) => none
    | (.ok (), allocated, cleared) =>
      some { standing with mapStorage := allocated, mem := allocated.applyInitialData program.mapInitialData cleared }
  else some standing

variable (interpreter program) in
def Loads (mapStorage : MapStorage) : Bool :=
  interpreter.registerAll.isOk && (interpreter.load program.bytecode mapStorage.mapPointers (loadDefs program mapStorage)).isOk

variable (interpreter program) in
structure Ran (standing : Standing) (after : Still) : Prop where
  active : after.activeImage = standing.active
  mapStorage : after.mapStorage = standing.mapStorage
  executed : after.executed =
    if Loads interpreter program standing.mapStorage then some ⟨program, standing.mapStorage.maps, standing.mem⟩
    else standing.executed

variable {installedThisCycle : Bool} {installed : Option LoadedProgram} {ready : Standing}

section
variable {standing : Standing} {command : Command} {commandReceivedAt batteryMv : Nat}

abbrev Prepares (space : AddressSpace) (program : LoadedProgram) (installedThisCycle : Bool) (standing : Standing)
    (m : Cycle τ Unit) : Prop :=
  Meets (fun device => device.standing = standing) m
    (fun _ device => prepared space program installedThisCycle standing = some device.standing)
    fun device => prepared space program installedThisCycle standing = none ∧ device.standing = standing

theorem prepareMaps_prepares (program : LoadedProgram) (installedThisCycle : Bool) :
    Prepares space program installedThisCycle standing (prepareMaps platform space board program installedThisCycle) := by
  have sleeps (unprepared : prepared space program installedThisCycle standing = none) :
      Prepares space program installedThisCycle standing (captureBatteryThenSleep platform board : Cycle τ Unit) :=
    .early (captureBatteryThenSleep_sleeps (P := fun core => core.1.standing = standing)) fun _ same => ⟨unprepared, same⟩
  have stays (asBefore : prepared space program installedThisCycle standing = some standing) :
      Prepares space program installedThisCycle standing (return () : Cycle τ Unit) :=
    .pure fun _ same => same ▸ asBefore
  refine .bind (Q := fun mapStorage device => mapStorage = standing.mapStorage ∧ device.standing = standing)
    ⟨fun _ same => ⟨congrArg mapStorage same, same⟩⟩ fun mapStorage => .given ?_
  rintro rfl
  refine .bind (Q := fun mem device => mem = standing.mem ∧ device.standing = standing)
    ⟨fun _ same => ⟨congrArg mem same, same⟩⟩ fun mem => .given ?_
  rintro rfl
  refine .ite (fun ephemeral => .ite (fun maps => sleeps ?_) fun noMaps => stays ?_) fun resident =>
    .ite (fun allocates => ?_) fun keeps => stays ?_
  · rw [prepared, if_pos ephemeral, if_pos maps]
  · rw [prepared, if_pos ephemeral, if_neg noMaps]
  · split
    · rename_i refused
      rw [allocate_failed refused]
      refine .bind (Q := fun _ device => device.standing = standing) (.update fun device same => ?_) fun _ => sleeps ?_
      · rw [← same]
        rfl
      · rw [prepared, if_neg resident, if_pos allocates, refused]
    · rename_i allocated
      refine .update fun device same => ?_
      rw [prepared, if_neg resident, if_pos allocates, allocated, ← same]
      rfl
  · rw [prepared, if_neg resident, if_neg keeps]

theorem executeBpf_runs : Meets (fun device : Device τ => device.standing = standing)
      (executeBpf platform provider reader interpreter space identity command commandReceivedAt batteryMv program)
      (fun _ device => Ran interpreter program standing device.still)
      fun device => Ran interpreter program standing device.still := by
  refine .next ⟨fun _ same => same⟩ fun now => ?_
  refine .next ⟨fun _ same => same⟩ fun sleepMgr => ?_
  refine .bind (Q := fun mapStorage device => mapStorage = standing.mapStorage ∧ device.standing = standing)
    ⟨fun _ same => ⟨congrArg mapStorage same, same⟩⟩ fun mapStorage => .given ?_
  rintro rfl
  refine .ite (fun loads => ⟨fun device same => ?_⟩) fun fails => .pure fun device same => ?_
  · have runs : Loads interpreter program standing.mapStorage = true := loads
    have ran (host : Host τ) (mem : Mem) : Ran interpreter program standing
        { device with
          mem := mem, host := host, executed := some ⟨program, standing.mapStorage.maps, device.mem⟩ : Device τ }.still := by
      refine ⟨congrArg active same, congrArg mapStorage same, ?_⟩
      rw [if_pos runs, ← same]
      rfl
    obtain ⟨result, mem, host⟩ := interpreter.execute _ program.bytecode standing.mapStorage.mapPointers
      (loadDefs program standing.mapStorage) _ defaultInstructionBudget device.mem device.host
    cases result with
    | none => exact ran host mem
    | some outcome => exact ran host mem
  · have unloaded : ¬Loads interpreter program standing.mapStorage = true := fails
    refine ⟨congrArg active same, congrArg mapStorage same, ?_⟩
    rw [if_neg unloaded]
    exact congrArg executed same

variable (interpreter space program) in
def Attempted (installedThisCycle : Bool) (standing : Standing) (after : Still) : Prop :=
  match prepared space program installedThisCycle standing with
  | none => after.standing = standing
  | some ready => Ran interpreter program ready after

theorem Attempted.unprepared (none : prepared space program installedThisCycle standing = none)
    (same : after.standing = standing) : Attempted interpreter space program installedThisCycle standing after := by
  unfold Attempted
  rwa [none]

theorem Attempted.ran (isReady : prepared space program installedThisCycle standing = some ready)
    (ran : Ran interpreter program ready after) :
    Attempted interpreter space program installedThisCycle standing after := by
  unfold Attempted
  rwa [isReady]

theorem persistCurrentCycleBattery_goes (L : Device τ → Prop) :
    Meets (fun device : Device τ => device.standing = standing) (persistCurrentCycleBattery platform board)
      (fun _ device => device.standing = standing) L := by
  refine .next ?_ fun batteryMv => ?_
  · unfold captureCurrentCycleBattery
    cases batteryChannel board with
    | none => exact .pure fun _ same => same
    | some channel =>
      refine .next ⟨fun _ same => same⟩ fun sensed => ?_
      exact .ite (fun _ => .pure fun _ same => same) fun _ => .pure fun _ same => same
  · refine .next ?_ fun _ => .pure fun _ same => same
    exact .uniform (Fixes.meets (P := (· = standing)) (still_standing (writeLastBatteryMv_quiet batteryMv).still))

theorem executeAndSleep_attempts {resident : Option LoadedProgram}
    (isProgram : (installed <|> resident) = some program) : Meets (fun device : Device τ => device.standing = standing)
      (executeAndSleep platform provider reader interpreter space board identity command commandReceivedAt installed resident)
      (fun _ device => Attempted interpreter space program (installed.any fun p => !p.isEphemeral) standing device.still)
      fun device => Attempted interpreter space program (installed.any fun p => !p.isEphemeral) standing device.still := by
  unfold executeAndSleep
  rw [isProgram]
  refine .bind (Q := fun _ device => ∃ ready,
    prepared space program (installed.any fun p => !p.isEphemeral) standing = some ready ∧ device.standing = ready) ?_
    fun _ => .of_exists fun ready isReady => ?_
  · exact .conseq (prepareMaps_prepares program _) (fun _ same => same) (fun _ device isReady => ⟨_, isReady, rfl⟩)
      fun _ unready => .unprepared unready.1 unready.2
  -- Neither of the two steps between the maps and the program can end the cycle.
  refine .next (.next ⟨fun _ same => same⟩ fun _ => ⟨fun _ same => same⟩) fun _ =>
    .bind (persistCurrentCycleBattery_goes _) fun batteryMv => ?_
  have ended {β : Type} {m : Cycle τ β} (fixed : Fixes Device.still m) :
      Meets (fun device : Device τ => Ran interpreter program ready device.still) m
        (fun _ device => Ran interpreter program ready device.still)
        fun device => Attempted interpreter space program (installed.any fun p => !p.isEphemeral) standing device.still :=
    .early (Fixes.meets (P := Ran interpreter program ready) fixed) fun _ ran => .ran isReady ran
  refine .bind (.early executeBpf_runs fun _ ran => .ran isReady ran) fun _ => ?_
  exact .conseq (ended afterExecution_quiet.still) (fun _ ran => ran) (fun _ _ ran => .ran isReady ran) fun _ attempted => attempted

theorem executeAndSleep_idle :
    Fixes Device.still (executeAndSleep platform provider reader interpreter space board identity command commandReceivedAt
      none none) := by
  refine .bind (.pure _) fun _ => .bind enterActive_quiet.still fun _ =>
    .bind persistCurrentCycleBattery_quiet.still fun _ => .bind (.pure _) fun _ => afterExecution_quiet.still

end

/-! ### After an UPDATE_PROGRAM -/

section
variable {expectedHash : Bytes} {programSize chunkSize chunkCount : Nat} {start : Device τ}

variable (platform provider reader identity expectedHash programSize chunkSize chunkCount) in
def Acks (budget : Nat) (start : Device τ) : Prop :=
  ∀ program installed,
    installing provider reader platform identity expectedHash programSize chunkSize chunkCount budget start =
      (.ok program, installed) →
    (onRadio (sendProgramAck platform.toLink provider identity program.hash) installed).1.isOk

theorem fetchProgram_installs (reads : ReadsActive platform still.activePartition) (unique : NoCollision provider platform)
    (isStill : start.still = still)
    (acks : Acks platform provider reader identity expectedHash programSize chunkSize chunkCount budget start) :
    Installs provider reader still (· = start)
      (fetchProgram platform provider reader identity false expectedHash programSize chunkSize chunkCount budget) := by
  have split : fetchProgram platform provider reader identity false expectedHash programSize chunkSize chunkCount budget =
      installing provider reader platform identity expectedHash programSize chunkSize chunkCount budget >>= fun program =>
        onRadio (sendProgramAck platform.toLink provider identity program.hash) >>= fun _ => return program := by
    simp only [fetchProgram, installing, bind_assoc]
    rfl
  rw [split]
  refine ⟨?_⟩
  rintro device rfl
  have installs : Installs provider reader still (fun device : Device τ => device.still = still)
      (installing provider reader platform identity expectedHash programSize chunkSize chunkCount budget) :=
    .bind (.early (stands (onRadio_still _)) fun _ same => .of_eq same)
      fun imageBytes => installResident_installs reads unique imageBytes expectedHash budget
  have met := installs.exits device isStill
  rw [bind_run]
  cases run : installing provider reader platform identity expectedHash programSize chunkSize chunkCount budget device with
  | mk result installed =>
    rw [run] at met
    cases result with
    | error e => exact met
    | ok program =>
      have taken := acks program installed run
      have same := onRadio_still (sendProgramAck platform.toLink provider identity program.hash) installed
      dsimp only at met ⊢
      rw [bind_run]
      cases sent : onRadio (sendProgramAck platform.toLink provider identity program.hash) installed with
      | mk result after =>
        rw [sent] at taken same
        cases result with
        | error e => cases taken
        | ok done =>
          change Installed provider reader still program after.still
          rwa [same]

theorem transferProgram_installs (reads : ReadsActive platform still.activePartition) (unique : NoCollision provider platform)
    (isStill : start.still = still) (acks : Acks platform provider reader identity expectedHash programSize chunkSize chunkCount
      start.mapStorage.budgetBytes start) : Installs provider reader still
      (fun device : Device τ => (setQueue [] device : Except Exit Unit × Device τ).2 = start)
      (transferProgram platform provider reader board identity false expectedHash programSize chunkSize chunkCount) := by
  refine .bind (Q := fun _ device => device = start) ⟨fun _ same => same⟩ fun _ => ?_
  refine .bind (Q := fun budget device => budget = start.mapStorage.budgetBytes ∧ device = start)
    ⟨fun _ same => ⟨same ▸ rfl, same⟩⟩ fun budget => .given ?_
  rintro rfl
  refine .bind (.early (.attempt (fetchProgram_installs reads unique isStill acks)) fun _ never => never.elim) fun result => ?_
  cases result with
  | error e => exact captureBatteryThenSleep_sleeps (P := fun core => Unswitched still core.1)
  | ok program =>
    refine .bind (Q := fun _ (device : Device τ) => Installed provider reader still program device.still) ?_ fun _ =>
      .pure fun _ installed => installed
    exact .ite (fun _ => ⟨fun _ installed => installed⟩) fun _ => .pure fun _ installed => installed

end

/-! ### The whole cycle -/

structure Due (provider : Provider) (reader : Cbor.Reader) (before : Still) (program : LoadedProgram)
    (installedThisCycle : Bool) (standing : Standing) : Prop where
  holds : program.isEphemeral = true ∨ Holds provider reader standing.active program
  active : (installedThisCycle = true ∧ Holds provider reader standing.active program) ∨ standing.active = before.activeImage
  mapStorage : standing.mapStorage = before.mapStorage
  executed : standing.executed = before.executed

variable (provider reader interpreter space) in
inductive Ended (before after : Still) : Prop
  | idle (unswitched : Unswitched before after)
  | attempted (program : LoadedProgram) (installedThisCycle : Bool) (standing : Standing)
      (due : Due provider reader before program installedThisCycle standing)
      (attempted : Attempted interpreter space program installedThisCycle standing after)

section
variable {before : Still} {command : Command} {commandReceivedAt : Nat}

variable (provider reader interpreter space before) in
abbrev Ends (pre : Device τ → Prop) (m : Cycle τ Empty) : Prop :=
  Meets pre m (fun _ device => Ended provider reader interpreter space before device.still)
    fun device => Ended provider reader interpreter space before device.still

theorem executeAndSleep_ends {resident : Option LoadedProgram}
    (isProgram : (installed <|> resident) = some program) : Ends provider reader interpreter space before
      (fun device => Due provider reader before program (installed.any fun p => !p.isEphemeral) device.standing)
      (executeAndSleep platform provider reader interpreter space board identity command commandReceivedAt installed
        resident) := by
  refine .prior (.of_exists (P := fun standing device => device.standing = standing)
    (p := Due provider reader before program (installed.any fun p => !p.isEphemeral)) fun standing due =>
      .conseq (executeAndSleep_attempts isProgram) (fun _ same => same)
        (fun _ _ attempted => Ended.attempted program _ standing due attempted)
        fun _ attempted => Ended.attempted program _ standing due attempted) (fun device due => ⟨device.standing, due, rfl⟩)

theorem unswitched_stays (fixed : Fixes Device.standing m) :
    Preserves (fun device : Device τ => Unswitched before device.still) m := by
  refine .conseq (Fixes.meets (P := fun standing : Standing => standing.active = before.activeImage ∧
    standing.mapStorage = before.mapStorage ∧ standing.executed = before.executed) fixed) ?_ ?_ ?_
  · exact fun device unswitched => ⟨unswitched.active, unswitched.mapStorage, unswitched.executed⟩
  · exact fun _ device same => ⟨same.1, same.2.1, same.2.2⟩
  · exact fun device same => ⟨same.1, same.2.1, same.2.2⟩

variable {programHash : Bytes} {residentImage : Option Bytes}

theorem resident_ends (isImage : ReadImage provider before programHash residentImage) :
    Ends provider reader interpreter space before (fun device => Unswitched before device.still)
      (executeAndSleep platform provider reader interpreter space board identity command commandReceivedAt none
        (residentImage.bind fun image => decodeImage reader image programHash)) := by
  cases resident : residentImage.bind fun image => decodeImage reader image programHash with
  | none =>
    exact .conseq (unswitched_stays (still_standing executeAndSleep_idle)) (fun _ unswitched => unswitched)
      (fun _ _ unswitched => .idle unswitched) fun _ unswitched => .idle unswitched
  | some program =>
    obtain ⟨image, found, decoded⟩ := Option.bind_eq_some_iff.mp resident
    obtain ⟨active, rfl⟩ := isImage image found
    refine .prior (executeAndSleep_ends rfl) (fun device unswitched => ?_)
    exact ⟨.inr ⟨image, unswitched.active.trans active, decoded⟩, .inr unswitched.active, unswitched.mapStorage,
      unswitched.executed⟩

theorem dispatched_ends {payload : CommandPayload}
    {accepting : Device τ} (isImage : ReadImage provider before programHash residentImage)
    (unswitched : Unswitched before accepting.still) (reads : ReadsActive platform accepting.storage.activePartition)
    (unique : NoCollision provider platform) (acks : ∀ expectedHash programSize chunkSize chunkCount,
      payload = .updateProgram expectedHash programSize chunkSize chunkCount →
      Acks platform provider reader identity expectedHash programSize chunkSize chunkCount
        accepting.mapStorage.budgetBytes (setQueue [] accepting : Except Exit Unit × Device τ).2) :
    Ends provider reader interpreter space before (· = accepting)
      (dispatchCommand platform provider reader board identity payload >>= fun installed =>
        executeAndSleep platform provider reader interpreter space board identity command commandReceivedAt installed
          (residentImage.bind fun image => decodeImage reader image programHash)) := by
  have usual {m : Cycle τ (Option LoadedProgram)}
      (fixed : Meets (fun device : Device τ => Unswitched before device.still) m
        (fun installed device => installed = none ∧ Unswitched before device.still)
        fun device => Unswitched before device.still) :
      Ends provider reader interpreter space before (· = accepting)
        (m >>= fun installed => executeAndSleep platform provider reader interpreter space board identity command
          commandReceivedAt installed (residentImage.bind fun image => decodeImage reader image programHash)) := by
    refine .bind (.conseq fixed ?_ (fun _ _ met => met) fun _ same => .idle same) fun installed => .given ?_
    · rintro device rfl
      exact unswitched
    · rintro rfl
      exact resident_ends isImage
  have nothing {m : Cycle τ Unit} (fixed : Fixes Device.standing m) :
      Meets (fun device : Device τ => Unswitched before device.still) (m >>= fun _ => (return none : Cycle τ (Option LoadedProgram)))
        (fun installed device => installed = none ∧ Unswitched before device.still)
        fun device => Unswitched before device.still :=
    .bind (unswitched_stays fixed) fun _ => .pure fun _ same => ⟨rfl, same⟩
  cases payload with
  | nop => exact usual (nothing (still_standing drainQueue_still))
  | reboot => exact usual (.stop fun _ same => same)
  | updateSchedule intervalS =>
    have written : Fixes Device.standing (writeScheduleInterval platform intervalS) :=
      writeStorage_fixes (fun _ => rfl) fun _ => rfl
    refine usual (.bind (unswitched_stays (.attempt written)) fun result => ?_)
    exact nothing (.onlyIf (still_standing (setSleepMgr_quiet _).still))
  | updateProgram expectedHash programSize chunkSize chunkCount =>
    refine .bind (Q := fun installed device => ∃ program, installed = some program ∧
      Installed provider reader accepting.still program device.still) ?_ fun installed => .of_exists ?_
    · refine .bind (.conseq (transferProgram_installs reads unique rfl (acks _ _ _ _ rfl)) ?_
        (fun _ _ installed => installed) fun device same => .idle (same.trans unswitched)) fun program =>
        .pure fun _ installed => ⟨program, rfl, installed⟩
      rintro device rfl
      rfl
    · rintro program rfl
      refine .prior (executeAndSleep_ends rfl) (fun device installed => ?_)
      exact ⟨.inr installed.active, .inl ⟨by simp [installed.active.resident], installed.active⟩,
        installed.mapStorage.trans unswitched.mapStorage, installed.executed.trans unswitched.executed⟩
  | runEphemeral expectedHash programSize chunkSize chunkCount =>
    refine .bind (Q := fun installed device => ∃ program, (installed = some program ∧ program.isEphemeral = true) ∧
      device.still = accepting.still) ?_ fun installed => .of_exists ?_
    · refine .bind (.conseq (transferProgram_ephemeral expectedHash programSize chunkSize chunkCount) ?_
        (fun _ _ met => met) fun device same => .idle (same ▸ unswitched)) fun program => .given fun ephemeral =>
        .pure fun _ same => ⟨program, ⟨rfl, ephemeral⟩, same⟩
      rintro device rfl
      rfl
    · rintro program ⟨rfl, ephemeral⟩
      refine .prior (executeAndSleep_ends rfl) (fun device same => ?_)
      have still : Unswitched before device.still := same ▸ unswitched
      exact ⟨.inl ephemeral, .inr still.active, still.mapStorage, still.executed⟩

theorem cycle_ended {awoken : Device τ} (reads : ReadsActive platform awoken.storage.activePartition)
    (unique : NoCollision provider platform) (acks : ∀ accepted heard expectedHash programSize chunkSize chunkCount,
      awaitCommand platform provider reader awoken = (.ok accepted, heard) →
      accepted.command.payload = .updateProgram expectedHash programSize chunkSize chunkCount →
      Acks platform provider reader accepted.identity expectedHash programSize chunkSize chunkCount
        heard.mapStorage.budgetBytes (transferStart space platform accepted heard)) :
    Ended provider reader interpreter space awoken.still
      (runWakeCycle platform provider reader interpreter space board awoken).2.still := by
  rw [runWakeCycle_device, cycle, bind_run]
  have listens : Learns awoken.still (awaitCommand platform provider reader : Cycle τ Accepted) _ := awaitCommand_reads reads
  obtain ⟨same, isImage⟩ := listens awoken rfl
  cases awaited : awaitCommand platform provider reader awoken with
  | mk result heard =>
    rw [awaited] at same isImage
    cases result with
    | error e => exact .idle (.of_eq same)
    | ok accepted =>
      have unswitched : Unswitched awoken.still heard.still := .of_eq same
      have partition : heard.storage.activePartition = awoken.storage.activePartition := congrArg Still.activePartition same
      have rest : Ends provider reader interpreter space awoken.still
          (· = ((acceptCommand space accepted.command >>= fun _ => ask platform.elapsedMs : Cycle τ Nat) heard).2)
          (dispatchCommand platform provider reader board accepted.identity accepted.command.payload >>= fun installed =>
            executeAndSleep platform provider reader interpreter space board accepted.identity accepted.command
              (platform.elapsedMs heard.host.radio.world).1 installed
              (accepted.residentImage.bind fun image => decodeImage reader image accepted.programHash)) :=
        dispatched_ends (isImage accepted rfl) ⟨unswitched.active, unswitched.mapStorage, unswitched.executed⟩
          (partition ▸ reads) unique fun _ _ _ _ isUpdate => acks accepted heard _ _ _ _ awaited isUpdate
      exact Meets.ends rest rfl

end

/-! ## Runs -/

section
variable {run : ProgramRun τ} {wakeup : Wakeup τ}

variable (provider reader interpreter space run) in
def ProgramRun.Owned : Prop :=
  ∀ program mapStorage, Holds provider reader run.device.activeImage program → program.mapDefs ≠ [] →
    fromRtc space.mapBacking run.device.mapStorage.budgetBytes run.device.mapStorage.mapDefs = mapStorage →
    mapStorage.mapDefs = program.mapDefs → Loads interpreter program mapStorage = true →
    run.settled = some program.hash

variable (holds : Holds provider reader active program)

include holds in
theorem Holds.hash : active.map (hashBytes provider) = some program.hash := by
  obtain ⟨_, _, rfl, -, rfl⟩ := holds.loaded
  rfl

theorem Holds.unique {other : LoadedProgram} (first : Holds provider reader active program)
    (second : Holds provider reader active other) : program = other := by
  obtain ⟨imageBytes, rfl, decoded⟩ := first
  obtain ⟨_, ⟨⟩, decoded'⟩ := second
  exact Option.some.inj (decoded.symm.trans decoded')

include holds in
theorem Holds.aligned : program.mapInitialData.length = program.mapDefs.length := by
  obtain ⟨_, _, -, isImage, rfl⟩ := holds.loaded
  exact (decode_aligned isImage).1

include holds in
theorem seen_self {settled : Option Bytes}
    (isSettled : settled = some program.hash) : seen provider active settled = some program.hash := by
  have isHash := holds.hash
  cases active with
  | none => cases isHash
  | some image =>
    have same : hashBytes provider image = program.hash := Option.some.inj isHash
    simp only [seen, isSettled, same, if_true]

variable {mem : Mem} {storage allocated : MapStorage} {cleared : Mem}

theorem allocate_fresh (aligned : program.mapInitialData.length = program.mapDefs.length)
    (ok : allocate space.mapBacking program.mapDefs (storage, mem) = (.ok (), allocated, cleared)) :
    Execution.Fresh ⟨program, allocated.maps, allocated.applyInitialData program.mapInitialData cleared⟩ := by
  have layout : allocated.maps.map (·.mapDef) = program.mapDefs := by
    obtain ⟨-, result⟩ := allocate_eq_ok.mp ok
    cases result
    exact mapDefs_layOut space.mapBacking storage.budgetBytes program.mapDefs
  refine ⟨layout, ?_, fun i map data isMap isData => allocated_fresh ok isMap isData⟩
  rw [aligned, ← layout, List.length_map]

variable {standing : Standing}

theorem prepared_cases (isReady : prepared space program installedThisCycle standing = some ready) :
    (program.isEphemeral = true ∧ ready = standing) ∨
    (program.isEphemeral = false ∧ installedThisCycle = false ∧ standing.mapStorage.mapDefs = program.mapDefs ∧
      ready = standing) ∨
    ∃ allocated cleared, program.isEphemeral = false ∧
      allocate space.mapBacking program.mapDefs (standing.mapStorage, standing.mem) = (.ok (), allocated, cleared) ∧
      ready = { standing with
        mapStorage := allocated, mem := allocated.applyInitialData program.mapInitialData cleared } := by
  unfold prepared at isReady
  split at isReady
  · rename_i ephemeral
    split at isReady
    · cases isReady
    · exact .inl ⟨ephemeral, (Option.some.inj isReady).symm⟩
  rename_i notEphemeral
  have resident := Bool.eq_false_of_not_eq_true notEphemeral
  split at isReady
  · split at isReady
    · cases isReady
    · rename_i allocated cleared ok
      exact .inr (.inr ⟨allocated, cleared, resident, ok, (Option.some.inj isReady).symm⟩)
  · rename_i keeps
    simp only [Bool.or_eq_true, Bool.not_eq_true', not_or, Bool.not_eq_true, Bool.not_eq_false, layoutMatches,
      decide_eq_true_eq] at keeps
    exact .inr (.inl ⟨resident, keeps.1, keeps.2, (Option.some.inj isReady).symm⟩)

section
variable {awoken device : Device τ} (owned : run.Owned provider reader interpreter space)
    (sameImage : awoken.activeImage = run.device.activeImage)
    (booted : awoken.mapStorage =
    fromRtc space.mapBacking run.device.mapStorage.budgetBytes run.device.mapStorage.mapDefs)

include booted in
theorem awoken_fromRtc :
    fromRtc space.mapBacking awoken.mapStorage.budgetBytes awoken.mapStorage.mapDefs = awoken.mapStorage := by
  rw [booted]
  exact fromRtc_idem _ _ _

include owned sameImage booted in
theorem owner_settled (active : device.activeImage = awoken.activeImage)
    (holds : Holds provider reader awoken.activeImage program) (some : program.mapDefs ≠ [])
    (layout : awoken.mapStorage.mapDefs = program.mapDefs) (loads : Loads interpreter program awoken.mapStorage = true) :
    (run.after provider awoken device).owner = Option.some program.hash := by
  have settled := owned program awoken.mapStorage (sameImage ▸ holds) some booted.symm layout loads
  exact seen_self (active ▸ holds) (seen_self holds settled)

include owned sameImage booted in
theorem after_owned_same (active : device.activeImage = awoken.activeImage)
    (mapStorage : device.mapStorage = awoken.mapStorage)
    (ran : ∀ program, Holds provider reader awoken.activeImage program → device.ran = none ∨ device.ran = some program.hash) :
    (run.after provider awoken device).Owned provider reader interpreter space := by
  intro program storage holds some isStorage layout loads
  have holds : Holds provider reader awoken.activeImage program := active ▸ holds
  have same : awoken.mapStorage = storage := by
    rw [← isStorage, ← awoken_fromRtc booted, ← mapStorage]
    rfl
  subst same
  have settled := owner_settled owned sameImage booted active holds some layout loads
  rcases ran program holds with none | ran
  · change (device.ran <|> _) = _
    rw [none]
    exact settled
  · change (device.ran <|> _) = _
    rw [ran]
    rfl

theorem ran_of_idle (idle : device.executed = none) : device.ran = none := by
  unfold Device.ran
  rw [idle]
  rfl

theorem freshStart_of_idle (idle : device.executed = none) : (run.after provider awoken device).FreshStart := by
  intro execution executed
  cases idle.symm.trans executed

section
variable (ran : Ran interpreter program ready device.still) (idle : ready.executed = none)

include ran idle in
theorem ran_of_turn : device.ran =
    if Loads interpreter program ready.mapStorage = true ∧ program.isEphemeral = false then some program.hash else none := by
  have executed : device.executed = _ := ran.executed
  unfold Device.ran
  rw [executed]
  cases Loads interpreter program ready.mapStorage <;> cases ephemeral : program.isEphemeral <;> simp [idle, ephemeral]

include ran idle in
theorem freshStart_of_turn (fresh : Loads interpreter program ready.mapStorage = true → program.isEphemeral = false →
      (run.after provider awoken device).owner ≠ some program.hash →
      Execution.Fresh ⟨program, ready.mapStorage.maps, ready.mem⟩) : (run.after provider awoken device).FreshStart := by
  intro execution isExecution resident unsettled
  have executed : device.executed = _ := ran.executed
  have isExecution := executed.symm.trans isExecution
  split at isExecution
  · rename_i loads
    cases isExecution
    exact fresh loads resident unsettled
  · cases idle.symm.trans isExecution

end

include booted in
theorem after_owned_unprepared
    (holds : Holds provider reader device.activeImage program) (mapStorage : device.mapStorage = awoken.mapStorage)
    (same : standing.mapStorage = awoken.mapStorage) (none : prepared space program true standing = none) :
    (run.after provider awoken device).Owned provider reader interpreter space := by
  intro held storage holds' some isStorage layout _
  obtain rfl := holds.unique holds'
  have isAwoken : awoken.mapStorage = storage := by
    rw [← isStorage, ← awoken_fromRtc booted, ← mapStorage]
    rfl
  rw [← isAwoken, booted] at layout
  rcases fromRtc_cases space.mapBacking run.device.mapStorage.budgetBytes run.device.mapStorage.mapDefs with
    empty | ⟨nonempty, allocates⟩
  · rw [empty] at layout
    exact absurd layout.symm some
  · rw [fromRtc_eq nonempty allocates, mapDefs_layOut] at layout
    have budget : standing.mapStorage.budgetBytes = run.device.mapStorage.budgetBytes := by
      rw [same, booted, fromRtc_eq nonempty allocates]
    rw [layout, ← budget] at allocates
    simp [prepared, holds.resident, allocate_eq_ok.mpr ⟨allocates, rfl⟩] at none

theorem after_owned_allocated (holds : Holds provider reader device.activeImage program)
    (ok : allocate space.mapBacking program.mapDefs (storage, mem) = (.ok (), allocated, cleared))
    (mapStorage : device.mapStorage = allocated)
    (ran : Loads interpreter program allocated = true → device.ran = some program.hash) :
    (run.after provider awoken device).Owned provider reader interpreter space := by
  intro held storage' holds' some isStorage layout loads
  obtain rfl := holds.unique holds'
  obtain ⟨allocates, result⟩ := allocate_eq_ok.mp ok
  cases result
  have isAllocated : storage' = ⟨storage.budgetBytes, layOut space.mapBacking program.mapDefs⟩ := by
    rw [← isStorage]
    change fromRtc _ device.mapStorage.budgetBytes device.mapStorage.mapDefs = _
    rw [mapStorage, mapDefs_layOut]
    exact fromRtc_eq some allocates
  change (device.ran <|> _) = _
  rw [ran (isAllocated ▸ loads)]
  rfl

theorem fresh_without_maps {mapStorage : MapStorage}
    (aligned : program.mapInitialData.length = program.mapDefs.length) (none : program.mapDefs = [])
    (layout : mapStorage.mapDefs = program.mapDefs) : Execution.Fresh ⟨program, mapStorage.maps, mem⟩ := by
  have noMaps : mapStorage.maps = [] := by
    rw [none] at layout
    exact List.map_eq_nil_iff.mp layout
  refine ⟨layout, ?_, fun i map data isMap => ?_⟩
  · rw [aligned, none, noMaps]
    rfl
  · rw [noMaps] at isMap
    cases isMap

variable {before : Still} (due : Due provider reader before program installedThisCycle standing)

include due in
theorem Due.resident (resident : program.isEphemeral = false) : Holds provider reader standing.active program := by
  rcases due.holds with ephemeral | holds
  · cases resident.symm.trans ephemeral
  · exact holds

include due in
theorem Due.unswitched
    (old : program.isEphemeral = true ∨ installedThisCycle = false) : standing.active = before.activeImage := by
  rcases due.active with ⟨rfl, holds⟩ | same
  · rcases old with ephemeral | never
    · cases holds.resident.symm.trans ephemeral
    · cases never
  · exact same

include owned sameImage booted in
theorem after_fresh_kept
    (due : Due provider reader awoken.still program installedThisCycle standing) (idle : standing.executed = none)
    (ran : Ran interpreter program standing device.still) (kept : program.isEphemeral = true ∨
      program.isEphemeral = false ∧ installedThisCycle = false ∧ standing.mapStorage.mapDefs = program.mapDefs) :
    (run.after provider awoken device).Owned provider reader interpreter space ∧
      (run.after provider awoken device).FreshStart := by
  have active : device.activeImage = standing.active := ran.active
  have same : device.activeImage = awoken.activeImage :=
    active.trans (due.unswitched (kept.imp_right fun resident => resident.2.1))
  have storage : standing.mapStorage = awoken.mapStorage := due.mapStorage
  have mapStorage : device.mapStorage = awoken.mapStorage := Eq.trans ran.mapStorage storage
  refine ⟨after_owned_same owned sameImage booted same mapStorage fun held holds => ?_, ?_⟩
  · rw [ran_of_turn ran idle]
    split
    · rename_i turn
      obtain rfl := holds.unique (same ▸ active ▸ due.resident turn.2)
      exact .inr rfl
    · exact .inl rfl
  · refine freshStart_of_turn ran idle fun loads resident unsettled => ?_
    have holds : Holds provider reader awoken.activeImage program := same ▸ active ▸ due.resident resident
    rcases kept with ephemeral | ⟨-, -, layout⟩
    · cases ephemeral.symm.trans resident
    by_cases none : program.mapDefs = []
    · exact fresh_without_maps holds.aligned none layout
    · rw [storage] at layout loads
      exact absurd (owner_settled owned sameImage booted same holds none layout loads) unsettled

include owned sameImage booted in
theorem after_fresh (never : awoken.executed = none)
    (ended : Ended provider reader interpreter space awoken.still device.still) :
    (run.after provider awoken device).Owned provider reader interpreter space ∧
      (run.after provider awoken device).FreshStart := by
  cases ended with
  | idle unswitched =>
    have idle : device.executed = none := unswitched.executed.trans never
    exact ⟨after_owned_same owned sameImage booted unswitched.active unswitched.mapStorage fun _ _ =>
      .inl (ran_of_idle idle), freshStart_of_idle idle⟩
  | attempted program installedThisCycle standing due attempted =>
    unfold Attempted at attempted
    have before : standing.executed = none := due.executed.trans never
    cases isReady : prepared space program installedThisCycle standing with
    | none =>
      rw [isReady] at attempted
      have active : device.activeImage = standing.active := congrArg active attempted
      have mapStorage : device.mapStorage = awoken.mapStorage := (congrArg mapStorage attempted).trans due.mapStorage
      have idle : device.executed = none := (congrArg executed attempted).trans before
      refine ⟨?_, freshStart_of_idle idle⟩
      rcases due.active with ⟨rfl, holds⟩ | same
      · exact after_owned_unprepared booted (active ▸ holds) mapStorage due.mapStorage isReady
      · exact after_owned_same owned sameImage booted (active.trans same) mapStorage fun _ _ => .inl (ran_of_idle idle)
    | some ready =>
      rw [isReady] at attempted
      rcases prepared_cases isReady with ⟨ephemeral, rfl⟩ | ⟨resident, fetched, layout, rfl⟩ |
        ⟨allocated, cleared, resident, ok, rfl⟩
      · exact after_fresh_kept owned sameImage booted due before attempted (.inl ephemeral)
      · exact after_fresh_kept owned sameImage booted due before attempted (.inr ⟨resident, fetched, layout⟩)
      · have active : device.activeImage = standing.active := attempted.active
        have holds : Holds provider reader device.activeImage program := active ▸ due.resident resident
        refine ⟨after_owned_allocated holds ok attempted.mapStorage fun loads => ?_, ?_⟩
        · rw [ran_of_turn attempted before, if_pos ⟨loads, resident⟩]
        · exact freshStart_of_turn attempted before fun _ _ _ => allocate_fresh holds.aligned ok

end

theorem new_program_fresh (provider : Provider) (reader : Cbor.Reader) (interpreter : BpfInterpreter (Host τ))
    (space : AddressSpace) (board : BoardLayout) (device : Device τ) (wakeups : List (Wakeup τ))
    (conditions : Throughout (ProgramRun.cycled provider reader interpreter space board)
      (fun run wakeup => run.Acked provider reader space wakeup ∧
        ReadsActive wakeup.platform run.device.storage.activePartition ∧ NoCollision provider wakeup.platform)
      (ProgramRun.start provider device) wakeups) :
    Always (ProgramRun.cycled provider reader interpreter space board) ProgramRun.FreshStart
      (ProgramRun.start provider device) wakeups := by
  have always : Always (cycled provider reader interpreter space board)
      (fun run => run.Owned provider reader interpreter space ∧ run.FreshStart) (start provider device) wakeups := by
    refine Throughout.always (fun run wakeup holds meets => ?_)
      ⟨fun program _ holds _ _ _ _ => holds.hash, nofun⟩ conditions
    obtain ⟨acked, reads, unique⟩ := meets
    have ended : Ended provider reader interpreter space (run.awoken space wakeup).still
        (runWakeCycle wakeup.platform provider reader interpreter space board (run.awoken space wakeup)).2.still :=
      cycle_ended reads unique fun _ _ _ _ _ _ awaited isUpdate _ _ run => acked _ _ _ _ _ _ _ _ awaited isUpdate run
    exact after_fresh holds.1 rfl rfl rfl ended
  exact fun done rest split => (always done rest split).2

end

section
variable (provider : Provider) (reader : Cbor.Reader) (space : AddressSpace) (run : ProgramRun τ) (wakeup : Wakeup τ)

instance : Decidable (run.Acked provider reader space wakeup) :=
  match awaited : awaitCommand wakeup.platform provider reader (run.awoken space wakeup) with
  | (.error _, _) => isTrue fun _ _ _ _ _ _ _ _ same => by cases awaited.symm.trans same
  | (.ok accepted, heard) =>
    match update : accepted.command.payload with
    | .updateProgram expectedHash programSize chunkSize chunkCount =>
      match installs : installing provider reader wakeup.platform accepted.identity expectedHash programSize chunkSize
        chunkCount heard.mapStorage.budgetBytes (transferStart space wakeup.platform accepted heard) with
      | (.error _, _) => isTrue fun _ _ _ _ _ _ _ _ same isUpdate run => by
        cases awaited.symm.trans same
        cases update.symm.trans isUpdate
        cases installs.symm.trans run
      | (.ok program, installed) =>
        decidable_of_iff
          ((onRadio (sendProgramAck wakeup.platform.toLink provider accepted.identity program.hash)
            installed).1.isOk = true)
          ⟨fun acked _ _ _ _ _ _ _ _ same isUpdate run => by
            cases awaited.symm.trans same
            cases update.symm.trans isUpdate
            cases installs.symm.trans run
            exact acked, fun acked => acked accepted heard _ _ _ _ program installed awaited update installs⟩
    | .nop | .reboot | .updateSchedule _ | .runEphemeral _ _ _ _ =>
      isTrue fun _ _ _ _ _ _ _ _ same isUpdate => by
        cases awaited.symm.trans same
        cases update.symm.trans isUpdate

end

end

def lengthProvider : Provider := { plainProvider with hash := fun bytes => bytes.length }

def byteMap : Cbor :=
  .map [(.unsigned mapKeyType, .unsigned 1), (.unsigned mapKeyKeySize, .unsigned 4), (.unsigned mapKeyValueSize, .unsigned 1),
    (.unsigned mapKeyMaxEntries, .unsigned 1)]

def newImage : Bytes := imageOf exits [byteMap]

def updatedDevice (takes : List Bool) : Device Script :=
  { smallDevice (imageOf (exits ++ exits) [byteMap]) ⟨takes, [
      gatewayFrame lengthProvider 7
        (.command 100 0 (.updateProgram (hashBytes lengthProvider newImage) newImage.length 200 1) none),
      gatewayFrame lengthProvider 100 (.chunk 0 newImage),
      gatewayFrame lengthProvider 7 (.command 100 0 .nop none)]⟩ with
    mapStorage := ⟨mapBudget, [⟨⟨1, 4, 1, 1⟩, smallSpace.mapBacking⟩]⟩
    mem := Mem.write (fun _ => 0) (smallSpace.mapBacking + 4) [5] }

abbrev smallProgramCycled : ProgramRun Script → Wakeup Script → ProgramRun Script :=
  cycled lengthProvider .definite (sondeBpfInterpreter smallSpace true) smallSpace smallBoard

def scriptedWakeup : Wakeup Script := ⟨scriptedPlatform, id⟩

theorem new_program_fresh_acked :
    (smallProgramCycled (.start lengthProvider (updatedDevice [])) scriptedWakeup).device.ran =
        some (hashBytes lengthProvider newImage) ∧
      Always smallProgramCycled ProgramRun.FreshStart (.start lengthProvider (updatedDevice []))
        [scriptedWakeup, scriptedWakeup] := by
  have reads (activePartition : Nat) : ReadsActive scriptedPlatform activePartition := .inr fun _ => rfl
  have unique : NoCollision lengthProvider scriptedPlatform := by
    rintro image world left ⟨⟩ _
    rfl
  refine ⟨by decide +kernel, new_program_fresh lengthProvider .definite (sondeBpfInterpreter smallSpace true) smallSpace
    smallBoard (updatedDevice []) [scriptedWakeup, scriptedWakeup] ⟨⟨?_, reads _, unique⟩, ⟨?_, reads _, unique⟩, trivial⟩⟩
  · decide +kernel
  · decide +kernel

def refusedAck : ProgramRun Script :=
  [scriptedWakeup, scriptedWakeup].foldl smallProgramCycled (.start lengthProvider (updatedDevice [true, true, false]))

def Execution.found (execution : Execution) : Bool × List Bytes × List (MapDef × Bytes) :=
  (execution.program.isEphemeral, execution.program.mapInitialData,
    execution.maps.map fun map => (map.mapDef, map.data execution.mem))

theorem refused_ack_keeps_old_bytes :
    refusedAck.owner = none ∧ refusedAck.device.ran = some (hashBytes lengthProvider newImage) ∧
      refusedAck.device.executed.map Execution.found = some (false, [[]], [(⟨1, 4, 1, 1⟩, [0, 0, 0, 0, 5])]) ∧
      ¬refusedAck.FreshStart := by
  have unsettled : refusedAck.owner = none := by decide +kernel
  have found : refusedAck.device.executed.map Execution.found =
      some (false, [[]], [(⟨1, 4, 1, 1⟩, [0, 0, 0, 0, 5])]) := by
    decide +kernel
  refine ⟨unsettled, by decide +kernel, found, fun fresh => ?_⟩
  obtain ⟨execution, executed, isFound⟩ := Option.map_eq_some_iff.mp found
  obtain ⟨resident, datas, maps⟩ : _ ∧ _ ∧ _ := by simpa only [Execution.found, Prod.mk.injEq] using isFound
  obtain ⟨map, isMaps, isMap⟩ := List.map_eq_singleton_iff.mp maps
  obtain ⟨isDef, isData⟩ := Prod.mk.inj isMap
  have started := fresh execution executed resident (by rw [unsettled]; simp)
  have bytes := started.bytes 0 map [] (by rw [isMaps]; rfl) (by rw [datas]; rfl)
  rw [isData, isDef] at bytes
  revert bytes
  decide

end Sonde.Node
