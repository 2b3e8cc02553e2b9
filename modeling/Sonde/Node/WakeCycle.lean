import Sonde.Node.BpfRuntime

/-!
# The wake cycle

`Device` is what the wake cycle works on. Its flash, its maps and its queue outlive the cycle. Storage calls may fail as
`Flash` says: a failed read gives the default of `NvsStorage`, a failed write leaves the stored value.
-/

namespace Sonde.Node
open Lib Protocol Program
open Bpf (Mem HelperDescriptor)

inductive StorageCall where
  | readKey
  | readInterval
  | readActivePartition
  | readProgram
  | readPeerPayload
  | readRegComplete
  | writeScheduleInterval
  | writeActivePartition
  | setEarlyWakeFlag
  | erasePeerPayload
  | writeRegComplete
  | writeLastBatteryMv
  deriving DecidableEq, Repr

structure Rng (τ : Type) where
  randomU64 : τ → BitVec 64 × τ
  healthCheck : τ → Bool × τ

/-- `writeProgram` says whether the call reports success and what it leaves in the partition. -/
structure Flash (τ : Type) where
  fails : StorageCall → τ → Bool × τ
  writeProgram : Bytes → τ → (Bool × Option Bytes) × τ

structure Platform (τ : Type) extends Link τ, Hal τ, Rng τ, Flash τ

structure BoardLayout where
  batteryAdc : Option Nat

structure Storage where
  key : Option NodeIdentity
  scheduleInterval : Nat
  activePartition : Nat
  programs : Nat → Option Bytes
  earlyWakeFlag : Bool
  peerPayload : Option Bytes
  regComplete : Bool
  lastBatteryMv : Option Nat

structure LoadedProgram where
  bytecode : Bytes
  mapDefs : List MapDef
  mapInitialData : List Bytes
  hash : Bytes
  isEphemeral : Bool

structure Execution where
  program : LoadedProgram
  maps : List MapInstance
  mem : Mem

structure Device (τ : Type) where
  storage : Storage
  mapStorage : MapStorage
  mem : Mem
  host : Host τ
  executed : Option Execution

inductive WakeCycleOutcome where
  | sleep (seconds : Nat)
  | reboot
  | unpaired
  deriving DecidableEq, Repr

inductive Exit where
  | returned (outcome : WakeCycleOutcome)
  | panicked
  deriving DecidableEq, Repr

abbrev Cycle (τ α : Type) := Program (Device τ) Exit α

def maxResidentImageSize : Nat := 4096
def maxEphemeralImageSize : Nat := 2048
def defaultInstructionBudget : Nat := 100000
def batteryFallbackMv : Nat := 0
def sensorBusStabilizeMs : Nat := 1
def batteryDividerSettleMs : Nat := 50
def batteryDividerRatio : Nat := 2
def defaultIntervalS : Nat := 300

variable {τ : Type} {ε α : Type}

def ask (f : τ → α × τ) : Program (Device τ) ε α := fun device =>
  let (answer, world) := f device.host.radio.world
  (.ok answer, { device with host := device.host.setWorld world })

def act (f : τ → τ) : Program (Device τ) ε Unit := ask fun world => ((), f world)

def onRadio (exchange : Exchange τ α) : Program (Device τ) NodeError α := fun device =>
  let (result, radio) := exchange device.host.radio
  (result, { device with host := { device.host with radio := radio } })

def setSleepMgr (f : SleepManager → SleepManager) : Program (Device τ) ε Unit :=
  update fun device => { device with host := { device.host with sleepMgr := f device.host.sleepMgr } }

def setQueue (queue : AsyncQueue) : Program (Device τ) ε Unit :=
  update fun device => { device with host := { device.host with asyncQueue := queue } }

section
variable (platform : Platform τ)

def readOr (call : StorageCall) (default : α) (view : Storage → α) : Program (Device τ) ε α := do
  let fault ← ask (platform.fails call)
  if fault then return default else read fun device => view device.storage

def writeStorage (call : StorageCall) (reason : String) (change : Storage → Storage) :
    Program (Device τ) NodeError Unit := do
  let fault ← ask (platform.fails call)
  if fault then stop (.storageError reason)
  else update fun device => { device with storage := change device.storage }

def readKey : Program (Device τ) ε (Option NodeIdentity) := readOr platform .readKey none Storage.key

def readSchedule : Program (Device τ) ε (Nat × Nat) := do
  let interval ← readOr platform .readInterval defaultIntervalS Storage.scheduleInterval
  let active ← readOr platform .readActivePartition 0 Storage.activePartition
  return (interval, active)

def readProgram (partition : Nat) : Program (Device τ) ε (Option Bytes) :=
  readOr platform .readProgram none fun storage => storage.programs partition

def readPeerPayload : Program (Device τ) ε (Option Bytes) := readOr platform .readPeerPayload none Storage.peerPayload

-- A key that cannot be read counts as present.
def hasPeerPayload : Program (Device τ) ε Bool :=
  readOr platform .readPeerPayload true fun storage => storage.peerPayload.isSome

def readRegComplete : Program (Device τ) ε Bool := readOr platform .readRegComplete false Storage.regComplete

def writeScheduleInterval (intervalS : Nat) : Program (Device τ) NodeError Unit :=
  writeStorage platform .writeScheduleInterval "interval write failed" fun storage =>
    { storage with scheduleInterval := intervalS }

def writeActivePartition (partition : Nat) : Program (Device τ) NodeError Unit :=
  writeStorage platform .writeActivePartition "active_p write failed" fun storage =>
    { storage with activePartition := partition }

def erasePeerPayload : Program (Device τ) NodeError Unit :=
  writeStorage platform .erasePeerPayload "peer_payload erase failed" fun storage => { storage with peerPayload := none }

def writeRegComplete (complete : Bool) : Program (Device τ) NodeError Unit :=
  writeStorage platform .writeRegComplete "reg_complete write failed" fun storage =>
    { storage with regComplete := complete }

def writeLastBatteryMv (batteryMv : Nat) : Program (Device τ) NodeError Unit :=
  writeStorage platform .writeLastBatteryMv "last_battery_mv write failed" fun storage =>
    { storage with lastBatteryMv := some batteryMv }

def setEarlyWakeFlag : Program (Device τ) NodeError Unit :=
  writeStorage platform .setEarlyWakeFlag "early wake flag write failed" fun storage =>
    { storage with earlyWakeFlag := true }

def takeEarlyWakeFlag : Program (Device τ) ε Bool := do
  let flag ← read fun device => device.storage.earlyWakeFlag
  update fun device => { device with storage := { device.storage with earlyWakeFlag := false } }
  return flag

def writeProgram (partition : Nat) (image : Bytes) : Program (Device τ) NodeError Unit := do
  let (written, left) ← ask (platform.writeProgram image)
  update fun device =>
    { device with storage := { device.storage with programs := Function.update device.storage.programs partition left } }
  if written then return () else stop (.storageError "program write failed")

end

section
variable (platform : Platform τ) (provider : Provider) (reader : Cbor.Reader)

def hashBytes (image : Bytes) : Bytes := toBigEndian 32 (provider.hash image).toNat

def loadActiveRaw : Program (Device τ) ε (Bytes × Option Bytes) := do
  let (_, activePartition) ← readSchedule platform
  if activePartition > 1 then return ([], none)
  else do
    let image ← readProgram platform activePartition
    match image with
    | some imageBytes => return (hashBytes provider imageBytes, some imageBytes)
    | none => return ([], none)

def loadedFrom (image : ProgramImage) (hash : Bytes) (isEphemeral : Bool) : LoadedProgram :=
  ⟨image.bytecode, image.maps, image.mapInitialData, hash, isEphemeral⟩

def decodeImage (imageBytes hash : Bytes) : Option LoadedProgram :=
  match ProgramImage.decode reader imageBytes with
  | .ok image => some (loadedFrom image hash false)
  | .error _ => none

def checkResident (imageBytes expectedHash : Bytes) (budget : Nat) : Except NodeError ProgramImage :=
  if hashBytes provider imageBytes ≠ expectedHash then .error .programHashMismatch
  else
    match ProgramImage.decode reader imageBytes with
    | .error _ => .error (.programDecodeFailed "program image decode failed")
    | .ok image => do
      MapStorage.validateMapDefs image.maps
      let required := MapStorage.requiredBytes image.maps
      if required > budget then .error (.mapBudgetExceeded required budget) else .ok image

def installResident (imageBytes expectedHash : Bytes) (budget : Nat) : Program (Device τ) NodeError LoadedProgram := do
  let image ← ofExcept (checkResident provider reader imageBytes expectedHash budget)
  let (_, activePartition) ← readSchedule platform
  if activePartition > 1 then stop (.storageError "invalid active partition index")
  else do
    let inactivePartition := 1 - activePartition
    writeProgram platform inactivePartition imageBytes
    let written ← readProgram platform inactivePartition
    match written with
    | none => stop (.storageError "failed to re-read written program")
    | some writtenBytes =>
      if hashBytes provider writtenBytes ≠ expectedHash then stop .programHashMismatch
      else do
        writeActivePartition platform inactivePartition
        return loadedFrom image (hashBytes provider imageBytes) false

def loadEphemeral (imageBytes expectedHash : Bytes) : Except NodeError LoadedProgram :=
  if hashBytes provider imageBytes ≠ expectedHash then .error .programHashMismatch
  else
    match ProgramImage.decode reader imageBytes with
    | .error _ => .error (.programDecodeFailed "program image decode failed")
    | .ok image =>
      if image.maps ≠ [] then .error (.programDecodeFailed "ephemeral programs must not declare maps")
      else .ok (loadedFrom image (hashBytes provider imageBytes) true)

end

/-! ## The cycle -/

section
variable (platform : Platform τ) (provider : Provider) (reader : Cbor.Reader) (interpreter : BpfInterpreter (Host τ))
    (space : AddressSpace) (board : BoardLayout)

def logAndSleep {α : Type} : Cycle τ α := do
  let sleepMgr ← read fun device => device.host.sleepMgr
  stop (.returned (.sleep sleepMgr.effectiveSleepS))

def batteryChannel : Option (BitVec 32) :=
  board.batteryAdc.bind fun pin => if pin ≤ 4 then some (BitVec.ofNat 32 pin) else none

def captureCurrentCycleBattery : Cycle τ Nat :=
  match batteryChannel board with
  | none => return batteryFallbackMv
  | some channel => do
    let (_, sensedMv) ← ask (platform.adcReadDiagnostics channel)
    if sensedMv.toInt < 0 then return batteryFallbackMv
    else return min (sensedMv.toNat * batteryDividerRatio) (2 ^ 32 - 1)

def persistCurrentCycleBattery : Cycle τ Nat := do
  let batteryMv ← captureCurrentCycleBattery platform board
  let _ ← attempt (writeLastBatteryMv platform batteryMv)
  return batteryMv

def enterActive : Cycle τ Unit := do
  act platform.enterActiveGpioState
  act (platform.delayMs (if (batteryChannel board).isSome then batteryDividerSettleMs else sensorBusStabilizeMs))

def captureBatteryThenSleep {α : Type} : Cycle τ α := do
  enterActive platform board
  let _ ← persistCurrentCycleBattery platform board
  act platform.enterIdleGpioState
  logAndSleep

def storedRequest : Cycle τ (Option Bytes) := do
  let complete ← readRegComplete platform
  if complete then return none else readPeerPayload platform

def heedRelay (result : Except NodeError Bool) : Cycle τ Unit :=
  match result with
  | .ok true => return ()
  | .ok false => logAndSleep
  | .error (.malformedPayload _) => do
    let _ ← attempt (erasePeerPayload platform)
    logAndSleep
  | .error _ => logAndSleep

variable (identity : NodeIdentity)

def relayRequest (completeFrame : Bytes) : Cycle τ Unit := do
  let result ← attempt do
    let acked ← onRadio (peerRequestExchange platform.toLink provider reader identity completeFrame)
    onlyIf acked (writeRegComplete platform true)
    return acked
  heedRelay platform result

-- Step 3a: relay the phone's frame until the gateway has registered the node.
def registerPeer : Cycle τ Unit := do
  let request ← storedRequest platform
  match request with
  | none => return ()
  | some completeFrame => relayRequest platform provider reader identity completeFrame

def piggyback (queue : AsyncQueue) (programHash : Bytes) (batteryMv : Nat) : Option Bytes :=
  (queue.singleForPiggyback maxPayloadSize).filter fun blob =>
    (wakeMessage programHash batteryMv (some blob)).encode.length ≤ maxPayloadSize

def offerWake (programHash : Bytes) : Cycle τ (Option Bytes × Except NodeError Command) := do
  let wakeNonce ← ask platform.randomU64
  let batteryMv ← read fun device => device.storage.lastBatteryMv.getD 0
  let queue ← read fun device => device.host.asyncQueue
  let wakeBlob := piggyback queue programHash batteryMv
  let result ← attempt
    (onRadio (wakeCommandExchange platform.toLink provider reader identity wakeNonce programHash batteryMv wakeBlob))
  return (wakeBlob, result)

def settleWake (wakeBlob : Option Bytes) (result : Except NodeError Command) : Cycle τ Command :=
  match result with
  | .ok command => do
    let present ← hasPeerPayload platform
    onlyIf present do
      let _ ← attempt (erasePeerPayload platform)
      return ()
    onlyIf wakeBlob.isSome (setQueue [])
    return command
  | .error _ => do
    let complete ← readRegComplete platform
    let present ← hasPeerPayload platform
    onlyIf (complete && present) do
      let _ ← attempt (writeRegComplete platform false)
      return ()
    logAndSleep

-- Steps 5 and 6.
def exchangeWake (programHash : Bytes) : Cycle τ Command := do
  let (wakeBlob, result) ← offerWake platform provider reader identity programHash
  settleWake platform wakeBlob result

-- `let mut current_seq = starting_seq`, and the blob where the context will point to it.
def acceptCommand (command : Command) : Cycle τ Unit :=
  update fun device =>
    { device with
      mem := device.mem.write space.blobBase (command.blob.getD [])
      host := { device.host with
        radio := { device.host.radio with currentSeq := command.startingSeq, startingSeq := some command.startingSeq } } }

-- The loop over the drained blobs stops at the first that cannot be sent.
def sendPending (identity : NodeIdentity) : AsyncQueue → Program (Device τ) NodeError Unit
  | [] => return ()
  | blob :: blobs => do
    onRadio (sendAppData platform.toLink provider identity blob)
    sendPending identity blobs

def drainQueue : Cycle τ Unit := do
  let pending ← read fun device => device.host.asyncQueue
  setQueue []
  let _ ← attempt (sendPending platform provider identity pending)
  return ()

def loadOrInstall (isEphemeral : Bool) (imageBytes expectedHash : Bytes) (budget : Nat) :
    Program (Device τ) NodeError LoadedProgram :=
  if isEphemeral then ofExcept (loadEphemeral provider reader imageBytes expectedHash)
  else installResident platform provider reader imageBytes expectedHash budget

-- Any error in here ends the cycle.
def fetchProgram (isEphemeral : Bool) (expectedHash : Bytes)
    (programSize chunkSize chunkCount budget : Nat) : Program (Device τ) NodeError LoadedProgram := do
  let imageBytes ← onRadio (chunkedTransfer platform.toLink provider reader identity programSize chunkSize chunkCount
    (if isEphemeral then maxEphemeralImageSize else maxResidentImageSize))
  let program ← loadOrInstall platform provider reader isEphemeral imageBytes expectedHash budget
  onRadio (sendProgramAck platform.toLink provider identity program.hash)
  return program

def transferProgram (isEphemeral : Bool) (expectedHash : Bytes)
    (programSize chunkSize chunkCount : Nat) : Cycle τ LoadedProgram := do
  setQueue []
  let budget ← read fun device => device.mapStorage.budgetBytes
  let result ← attempt
    (fetchProgram platform provider reader identity isEphemeral expectedHash programSize chunkSize chunkCount budget)
  match result with
  | .error _ => captureBatteryThenSleep platform board
  | .ok program => do
    onlyIf (¬isEphemeral) (setSleepMgr fun sleepMgr => { sleepMgr with wakeReason := .programUpdate })
    return program

-- Step 8. The program is one that this command has brought.
def dispatchCommand (command : CommandPayload) : Cycle τ (Option LoadedProgram) :=
  match command with
  | .nop => do
    drainQueue platform provider identity
    return none
  | .reboot => stop (.returned .reboot)
  | .updateSchedule intervalS => do
    let result ← attempt (writeScheduleInterval platform intervalS)
    onlyIf result.isOk (setSleepMgr fun sleepMgr => { sleepMgr with baseIntervalS := intervalS })
    return none
  | .updateProgram expectedHash programSize chunkSize chunkCount => do
    let program ← transferProgram platform provider reader board identity false expectedHash programSize chunkSize
      chunkCount
    return some program
  | .runEphemeral expectedHash programSize chunkSize chunkCount => do
    let program ← transferProgram platform provider reader board identity true expectedHash programSize chunkSize
      chunkCount
    return some program

def setMaps (maps : MapStorage × Mem) : Cycle τ Unit :=
  update fun device => { device with mapStorage := maps.1, mem := maps.2 }

def prepareMaps (program : LoadedProgram) (installedThisCycle : Bool) : Cycle τ Unit := do
  let mapStorage ← read Device.mapStorage
  let mem ← read Device.mem
  if program.isEphemeral then
    if program.mapDefs ≠ [] then captureBatteryThenSleep platform board else return ()
  else if installedThisCycle || !mapStorage.layoutMatches program.mapDefs then
    match MapStorage.allocate space.mapBacking program.mapDefs (mapStorage, mem) with
    | (.error _, maps) => do
      setMaps maps
      captureBatteryThenSleep platform board
    | (.ok (), allocated, cleared) => setMaps (allocated, allocated.applyInitialData program.mapInitialData cleared)
  else return ()

def sondeContext (command : Command) (elapsed batteryMv : Nat) (wakeReason : WakeReason) : SondeContext where
  timestamp := BitVec.ofNat 64 (saturatingAdd command.timestampMs.toNat elapsed)
  batteryMv := min batteryMv (2 ^ 16 - 1)
  firmwareAbiVersion := firmwareAbiVersion
  wakeReason := wakeReason.code
  dataStart := command.blob.elim 0 fun _ => space.blobBase
  dataEnd := command.blob.elim 0 fun blob => space.blobBase + BitVec.ofNat 64 blob.length

-- A program without maps is loaded with all maps that are allocated.
def loadDefs (program : LoadedProgram) (mapStorage : MapStorage) : List MapDef :=
  if program.mapDefs = [] ∧ mapStorage.maps.length > 0 then mapStorage.mapDefs else program.mapDefs

-- Nothing is executed when a registration or the load fails.
def interpret (helpers : List (HelperDescriptor (Host τ))) (program : LoadedProgram) (mapStorage : MapStorage)
    (ctx : SondeContext) : Cycle τ Unit :=
  let defs := loadDefs program mapStorage
  if interpreter.registerAll.isOk && (interpreter.load program.bytecode mapStorage.mapPointers defs).isOk then
    fun device =>
      let (result, mem, host) := interpreter.execute helpers program.bytecode mapStorage.mapPointers defs ctx
        defaultInstructionBudget device.mem device.host
      let executed := some ⟨program, mapStorage.maps, device.mem⟩
      (if result.isSome then .ok () else .error .panicked, { device with mem := mem, host := host, executed := executed })
  else return ()

def dispatchFor (command : Command) (commandReceivedAt batteryMv : Nat)
    (program : LoadedProgram) (mapStorage : MapStorage) : Dispatch where
  identity := identity
  programClass := if program.isEphemeral then .ephemeral else .resident
  gatewayTimestampMs := command.timestampMs
  commandReceivedAtMs := commandReceivedAt
  batteryMv := batteryMv
  maps := mapStorage.maps
  mapPtrIndex := mapPtrIndex mapStorage.mapPointers

def executeBpf (command : Command) (commandReceivedAt batteryMv : Nat) (program : LoadedProgram) : Cycle τ Unit := do
  let now ← ask platform.elapsedMs
  let sleepMgr ← read fun device => device.host.sleepMgr
  let mapStorage ← read Device.mapStorage
  let ctx := sondeContext space command (now - commandReceivedAt) batteryMv sleepMgr.wakeReason
  let dispatch := dispatchFor identity command commandReceivedAt batteryMv program mapStorage
  interpret interpreter (registered platform.toLink platform.toHal provider reader dispatch) program mapStorage ctx

def forProgram (program : Option LoadedProgram) (m : LoadedProgram → Cycle τ Unit) : Cycle τ Unit :=
  program.elim (return ()) m

-- Steps 9 and 10.
def executeAndSleep (command : Command) (commandReceivedAt : Nat)
    (installed : Option LoadedProgram) (resident : Option LoadedProgram) : Cycle τ Empty := do
  let program := installed <|> resident
  forProgram program fun program => prepareMaps platform space board program (installed.any fun p => !p.isEphemeral)
  enterActive platform board
  let batteryMv ← persistCurrentCycleBattery platform board
  forProgram program fun program =>
    executeBpf platform provider reader interpreter space identity command commandReceivedAt batteryMv program
  act platform.enterIdleGpioState
  let sleepMgr ← read fun device => device.host.sleepMgr
  onlyIf sleepMgr.willWakeEarly do
    let _ ← attempt (setEarlyWakeFlag platform)
    return ()
  logAndSleep

def startCycle : Cycle τ NodeIdentity := do
  let key ← readKey platform
  match key with
  | none => stop (.returned .unpaired)
  | some identity => do
    let healthy ← ask platform.healthCheck
    if ¬healthy then do
      let (baseIntervalS, _) ← readSchedule platform
      setSleepMgr fun _ => SleepManager.new baseIntervalS .scheduled
      logAndSleep
    else do
      let early ← takeEarlyWakeFlag
      let (baseIntervalS, _) ← readSchedule platform
      setSleepMgr fun _ => SleepManager.new baseIntervalS (if early then .early else .scheduled)
      return identity

def prepareWake : Cycle τ (NodeIdentity × Bytes × Option Bytes) := do
  let identity ← startCycle platform
  registerPeer platform provider reader identity
  let (programHash, residentImage) ← loadActiveRaw platform provider
  return (identity, programHash, residentImage)

structure Accepted where
  identity : NodeIdentity
  programHash : Bytes
  residentImage : Option Bytes
  command : Command
  deriving DecidableEq, Repr

def awaitCommand : Cycle τ Accepted := do
  let (identity, programHash, residentImage) ← prepareWake platform provider reader
  let command ← exchangeWake platform provider reader identity programHash
  return ⟨identity, programHash, residentImage, command⟩

def obeyCommand (accepted : Accepted) : Cycle τ Empty := do
  acceptCommand space accepted.command
  let commandReceivedAt ← ask platform.elapsedMs
  let installed ← dispatchCommand platform provider reader board accepted.identity accepted.command.payload
  let resident := accepted.residentImage.bind fun image => decodeImage reader image accepted.programHash
  executeAndSleep platform provider reader interpreter space board accepted.identity accepted.command commandReceivedAt
    installed resident

def cycle : Cycle τ Empty :=
  awaitCommand platform provider reader >>= obeyCommand platform provider reader interpreter space board

/-- The outcome of the cycle, `none` when it panicked, and the device as it leaves it. -/
def runWakeCycle (device : Device τ) : Option WakeCycleOutcome × Device τ :=
  match cycle platform provider reader interpreter space board device with
  | (.error (.returned outcome), device') => (some outcome, device')
  | (.error .panicked, device') => (none, device')

end

/-- The node after deep sleep: the maps are rebuilt from the layout record, the ghost logs are empty. -/
def Device.boot {τ : Type} (backing : BitVec 64) (device : Device τ) : Device τ :=
  { device with
    mapStorage := MapStorage.fromRtc backing device.mapStorage.budgetBytes device.mapStorage.mapDefs
    host := { device.host with radio := ⟨device.host.radio.world, 0, none, []⟩, traceLog := [], pushed := [] }
    executed := none }

structure Script where
  takes : List Bool
  inbox : List (Option Bytes)

def scriptedPlatform : Platform Script where
  send _ script :=
    (if script.takes.headD true then .ok () else .error (.transport "refused"), { script with takes := script.takes.tail })
  recv _ script := (.ok (script.inbox.headD none), { script with inbox := script.inbox.tail })
  elapsedMs script := (0, script)
  delayMs _ script := script
  delayUs _ script := script
  patience := 1
  call _ script := ((0, []), script)
  adcReadDiagnostics _ script := ((0, 0), script)
  enterActiveGpioState script := script
  enterIdleGpioState script := script
  randomU64 script := (7, script)
  healthCheck script := (true, script)
  fails _ script := (false, script)
  writeProgram image script := ((true, some image), script)

def smallIdentity : NodeIdentity := ⟨0, 7⟩

def smallBoard : BoardLayout := ⟨none⟩

def smallDevice (image : Bytes) (script : Script) : Device Script where
  storage :=
    { key := some smallIdentity
      scheduleInterval := 300
      activePartition := 0
      programs := fun partition => if partition = 0 then some image else none
      earlyWakeFlag := false
      peerPayload := none
      regComplete := true
      lastBatteryMv := none }
  mapStorage := ⟨mapBudget, []⟩
  mem := fun _ => 0
  host := ⟨⟨script, 0, none, []⟩, SleepManager.new 300 .scheduled, [], [], []⟩
  executed := none

def imageOf (bytecode : Bytes) (maps : List Cbor) : Bytes :=
  (Cbor.map [(.unsigned imgKeyBytecode, .bytes bytecode), (.unsigned imgKeyMaps, .array maps)]).encode

def gatewayFrame (provider : Provider) (nonce : BitVec 64) (message : GatewayMessage) : Option Bytes :=
  (encodeFrame provider ⟨0, message.msgType, nonce⟩ message.encode smallIdentity.psk).toOption

def smallSpace : AddressSpace where
  mapBacking := 0x10000
  ctxBase := 0x1000
  stackBase := 0x2000
  blobBase := 0x4000
  backing_notNull := by decide
  backing_fits := by decide
  ctx_fits := by decide
  stack_fits := by decide
  blob_fits := by decide
  ctx_apart := by unfold Apart; decide
  stack_apart := by unfold Apart; decide
  blob_apart := by unfold Apart; decide

end Sonde.Node
