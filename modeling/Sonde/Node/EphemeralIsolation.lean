import Sonde.Node.DownlinkBlob
import Sonde.Node.Installation
import Sonde.Node.MapWrites

/-!
# Ephemeral programs and the state of the resident program

A program without maps is loaded with all maps that are allocated, so an ephemeral program can reach the resident program's
maps. Everything else of the resident program stays as it is.
-/

namespace Sonde.Node
open Lib Lib.Program Protocol
open Bpf (Mem Running)

variable {τ : Type}

/-! ## The cycle up to the execution -/

section
variable (platform : Platform τ) (provider : Provider) (reader : Cbor.Reader) (space : AddressSpace) (board : BoardLayout)

structure Ready where
  program : LoadedProgram
  commandReceivedAt : Nat
  batteryMv : Nat
  now : Nat

def untilExecution (accepted : Accepted) (expectedHash : Bytes) (programSize chunkSize chunkCount : Nat) : Cycle τ Ready := do
  acceptCommand space accepted.command
  let commandReceivedAt ← ask platform.elapsedMs
  let program ← transferProgram platform provider reader board accepted.identity true expectedHash programSize chunkSize
    chunkCount
  prepareMaps platform space board program (!program.isEphemeral)
  enterActive platform board
  let batteryMv ← persistCurrentCycleBattery platform board
  let now ← ask platform.elapsedMs
  return ⟨program, commandReceivedAt, batteryMv, now⟩

def readyDispatch (accepted : Accepted) (ready : Ready) (mapStorage : MapStorage) : Dispatch :=
  dispatchFor accepted.identity accepted.command ready.commandReceivedAt ready.batteryMv ready.program mapStorage

def readyContext (accepted : Accepted) (ready : Ready) (device : Device τ) : SondeContext :=
  sondeContext space accepted.command (ready.now - ready.commandReceivedAt) ready.batteryMv device.host.sleepMgr.wakeReason

def execution (interpreter : BpfInterpreter (Host τ)) (accepted : Accepted) (ready : Ready) : Cycle τ Unit := do
  let device ← Program.read id
  interpret interpreter
    (registered platform.toLink platform.toHal provider reader (readyDispatch accepted ready device.mapStorage))
    ready.program device.mapStorage (readyContext space accepted ready device)

/-- No turn of the ephemeral program writes into a map. `heard` is the device when the COMMAND has been accepted. -/
def EphemeralAvoids (overflowChecks : Bool) (accepted : Accepted) (expectedHash : Bytes)
    (programSize chunkSize chunkCount : Nat) (heard : Device τ) : Prop :=
  ∀ ready device regions,
    untilExecution platform provider reader space board accepted expectedHash programSize chunkSize chunkCount heard =
      (.ok ready, device) →
    loadRegions ready.program.bytecode device.mapStorage.mapPointers (loadDefs ready.program device.mapStorage) =
      .ok regions →
    let env := cycleEnv platform provider reader space overflowChecks accepted.identity accepted.command
      ready.commandReceivedAt ready.batteryMv ready.program device.mapStorage regions
    ∀ map ∈ device.mapStorage.maps, ∀ s,
      Running env (device.mem.write space.ctxBase (readyContext space accepted ready device).toBytes) device.host s →
      s.pc < env.numInsns → TurnAvoids env (readyDispatch accepted ready device.mapStorage) map s

end

variable {platform : Platform τ} {provider : Provider} {reader : Cbor.Reader} {space : AddressSpace} {board : BoardLayout}
  {accepted : Accepted} {expectedHash : Bytes}

theorem obeyCommand_ephemeral {interpreter : BpfInterpreter (Host τ)} {programSize chunkSize chunkCount : Nat}
    (command : accepted.command.payload = .runEphemeral expectedHash programSize chunkSize chunkCount) :
    obeyCommand platform provider reader interpreter space board accepted =
      untilExecution platform provider reader space board accepted expectedHash programSize chunkSize chunkCount >>=
        fun ready => execution platform provider reader space interpreter accepted ready >>= fun _ =>
          afterExecution platform := by
  simp only [obeyCommand, untilExecution, command, dispatchCommand, bind_assoc, pure_bind]
  exact bind_congr fun now => rfl

variable {program : LoadedProgram}

theorem loadEphemeral_ephemeral {imageBytes : Bytes}
    (loaded : loadEphemeral provider reader imageBytes expectedHash = .ok program) : program.isEphemeral = true := by
  unfold loadEphemeral at loaded
  split at loaded
  · cases loaded
  split at loaded
  · cases loaded
  split at loaded
  · cases loaded
  · cases loaded
    rfl

variable {command : Command} {still : Still} {identity : NodeIdentity} {ε α : Type}

theorem stands {m : Program (Device τ) ε α} (fixed : Fixes Device.still m) :
    Preserves (fun device : Device τ => device.still = still) m :=
  Fixes.meets (P := (· = still)) fixed

theorem fetchProgram_ephemeral (expectedHash : Bytes) (programSize chunkSize chunkCount budget : Nat) :
    Meets (fun device : Device τ => device.still = still)
      (fetchProgram platform provider reader identity true expectedHash programSize chunkSize chunkCount budget)
      (fun program device => program.isEphemeral = true ∧ device.still = still) fun device => device.still = still := by
  refine .bind (stands (onRadio_still _)) fun imageBytes => ?_
  refine .checked (fun _ same => same) fun program loaded => .bind (stands (onRadio_still _)) fun _ => ?_
  exact .pure fun _ same => ⟨loadEphemeral_ephemeral loaded, same⟩

theorem transferProgram_ephemeral (expectedHash : Bytes) (programSize chunkSize chunkCount : Nat) :
    Meets (fun device : Device τ => device.still = still)
      (transferProgram platform provider reader board identity true expectedHash programSize chunkSize chunkCount)
      (fun program device => program.isEphemeral = true ∧ device.still = still) fun device => device.still = still := by
  refine .bind (stands (setQueue_still _)) fun _ => .bind (stands (.read _)) fun budget => ?_
  refine .bind (.early (.attempt (fetchProgram_ephemeral expectedHash programSize chunkSize chunkCount
    budget)) fun _ never => never.elim) fun result => ?_
  cases result with
  | error e => exact captureBatteryThenSleep_sleeps (P := fun core => core.1 = still)
  | ok program =>
    exact .given fun ephemeral => .bind (stands (.onlyIf (setSleepMgr_quiet _).still)) fun _ =>
      .pure fun _ same => ⟨ephemeral, same⟩

theorem prepareMaps_ephemeral (ephemeral : program.isEphemeral = true) (installed : Bool) :
    Fixes Device.still (prepareMaps platform space board program installed) := by
  refine .bind (.read _) fun mapStorage => .bind (.read _) fun mem => ?_
  rw [if_pos ephemeral]
  exact .ite captureBatteryThenSleep_quiet.still (.pure _)

theorem acceptCommand_still (noBlob : command.blob = none) :
    Fixes Device.still (acceptCommand space command : Cycle τ Unit) := by
  apply Fixes.update
  intro device
  rw [noBlob]
  rfl

theorem untilExecution_stands (noBlob : accepted.command.blob = none) (expectedHash : Bytes)
    (programSize chunkSize chunkCount : Nat) : Preserves (fun device : Device τ => device.still = still)
      (untilExecution platform provider reader space board accepted expectedHash programSize chunkSize chunkCount) := by
  refine .bind (stands (acceptCommand_still noBlob)) fun _ => .bind (stands (ask_quiet _).still) fun received => ?_
  refine .bind (transferProgram_ephemeral expectedHash programSize chunkSize chunkCount) fun program => ?_
  refine .given fun ephemeral => .bind (stands (prepareMaps_ephemeral ephemeral _)) fun _ => ?_
  refine .bind (stands enterActive_quiet.still) fun _ => ?_
  refine .bind (stands persistCurrentCycleBattery_quiet.still) fun batteryMv => ?_
  exact .bind (stands (ask_quiet _).still) fun now => .pure fun _ same => same

def NoBlob (command : Command) : Prop := command.payload = .nop ∨ command.blob = none

variable {payload : Bytes}

theorem decode_noBlob {msgType : BitVec 8} {startingSeq timestampMs : BitVec 64}
    {command : CommandPayload} {blob : Option Bytes}
    (decoded : GatewayMessage.decode reader msgType payload = .ok (.command startingSeq timestampMs command blob)) :
    NoBlob ⟨startingSeq, timestampMs, command, blob⟩ := by
  obtain ⟨fields, -, decoded⟩ := bind_eq_ok.mp decoded
  split at decoded
  · simp only [bind_eq_ok] at decoded
    obtain ⟨commandType, -, seq, -, timestamp, -, payload, isPayload, decoded⟩ := decoded
    split at decoded
    · rename_i nop
      obtain ⟨found, -, decoded⟩ := bind_eq_ok.mp decoded
      cases decoded
      rw [CommandPayload.decode, if_pos nop] at isPayload
      cases isPayload
      exact .inl rfl
    · cases decoded
      exact .inr rfl
  · split_ifs at decoded <;> simp [bind_eq_ok] at decoded

theorem decodeCommandAsNop_noBlob (decoded : decodeCommandAsNop reader payload = .ok command) : NoBlob command := by
  unfold decodeCommandAsNop at decoded
  split at decoded
  · cases decoded
  · split at decoded
    · cases decoded
    · split at decoded
      · cases decoded
      · cases decoded
        exact .inl rfl
  · cases decoded

theorem hears_noBlob (identity : NodeIdentity) :
    Hears platform provider reader identity fun command _ => NoBlob command := by
  intro nonce raw world world' command received decoded
  obtain ⟨⟨header, payload⟩, -, decoded⟩ := bind_eq_ok.mp decoded
  dsimp only at decoded
  split at decoded
  · cases decoded
  split at decoded
  · cases decoded
  split at decoded
  · exact decodeCommandAsNop_noBlob decoded
  · cases decoded
  · rename_i isCommand
    cases decoded
    exact decode_noBlob isCommand
  · cases decoded

variable {device : Device τ}

theorem awaitCommand_noBlob {heard : Device τ}
    (awaited : awaitCommand platform provider reader device = (.ok accepted, heard)) : NoBlob accepted.command := by
  have hears : Hears platform provider reader accepted.identity fun command _ => NoBlob command := hears_noBlob _
  have met := (awaitCommand_heard hears fun _ _ _ kept => kept).exits device (awaitCommand_key awaited)
  rwa [awaited] at met

def Placed (space : AddressSpace) (map : MapInstance) : Prop :=
  space.mapBacking.toNat ≤ map.ptr.toNat ∧ map.ptr.toNat + map.storageBytes ≤ space.mapBacking.toNat + mapBudget

theorem fromRtc_placed {budgetBytes : Nat} {layout : List MapDef} {map : MapInstance}
    (member : map ∈ (MapStorage.fromRtc space.mapBacking budgetBytes layout).maps) : Placed space map := by
  rcases fromRtc_cases space.mapBacking budgetBytes layout with empty | ⟨nonempty, allocates⟩
  · rw [empty] at member
    cases member
  · rw [fromRtc_eq nonempty allocates] at member
    have fits := space.backing_fits
    have small := allocates.backing
    have bounds := layOut_within (by omega) member
    unfold Placed
    omega

/-! ## The execution -/

structure SameResident (before after : Device τ) : Prop where
  layout : after.mapStorage = before.mapStorage
  bytes : ∀ map ∈ before.mapStorage.maps, map.data after.mem = map.data before.mem
  flash : after.orders = before.orders

variable {before after : Device τ}

theorem SameResident.of_still (same : after.still = before.still) : SameResident before after where
  layout := congrArg Still.mapStorage same
  bytes map _ := congrArg (fun still : Still => map.data still.mem) same
  flash := congrArg (fun still : Still => (still.scheduleInterval, Partitions.mk still.activePartition still.programs)) same

theorem SameResident.trans {between : Device τ} (first : SameResident before between)
    (second : SameResident between after) : SameResident before after where
  layout := second.layout.trans first.layout
  bytes map member := by
    have there : map ∈ between.mapStorage.maps := by rwa [first.layout]
    exact (second.bytes map there).trans (first.bytes map member)
  flash := second.flash.trans first.flash

theorem execution_same {overflowChecks : Bool} {ready : Ready}
    (placed : ∀ map ∈ device.mapStorage.maps, Placed space map)
    (avoids : ∀ regions, loadRegions ready.program.bytecode device.mapStorage.mapPointers
        (loadDefs ready.program device.mapStorage) = .ok regions →
      let env := cycleEnv platform provider reader space overflowChecks accepted.identity accepted.command
        ready.commandReceivedAt ready.batteryMv ready.program device.mapStorage regions
      ∀ map ∈ device.mapStorage.maps, ∀ s,
        Running env (device.mem.write space.ctxBase (readyContext space accepted ready device).toBytes) device.host s →
        s.pc < env.numInsns → TurnAvoids env (readyDispatch accepted ready device.mapStorage) map s) : SameResident device
      (execution platform provider reader space (sondeBpfInterpreter space overflowChecks) accepted ready device).2 := by
  simp only [execution, bind_run, read_run, id]
  refine iteInduction (motive := fun m : Cycle τ Unit => SameResident device (m device).2) (fun loads => ?_)
    fun _ => .of_still rfl
  cases loaded : loadRegions ready.program.bytecode device.mapStorage.mapPointers
    (loadDefs ready.program device.mapStorage) with
  | error e => simp [sondeBpfInterpreter, loaded, bind, Except.bind, Except.isOk, Except.toBool] at loads
  | ok regions =>
    refine ⟨rfl, fun map member => ?_, rfl⟩
    exact executed_data (avoids regions loaded map member) (placed map member) loaded

theorem ephemeral_leaves_resident (platform : Platform τ) (provider : Provider) (reader : Cbor.Reader) (space : AddressSpace)
    (overflowChecks : Bool) (board : BoardLayout) (asleep heard : Device τ) (accepted : Accepted) (expectedHash : Bytes)
    (programSize chunkSize chunkCount : Nat)
    (awaited : awaitCommand platform provider reader (asleep.boot space.mapBacking) = (.ok accepted, heard))
    (command : accepted.command.payload = .runEphemeral expectedHash programSize chunkSize chunkCount)
    (avoids : EphemeralAvoids platform provider reader space board overflowChecks accepted expectedHash programSize chunkSize
      chunkCount heard) : SameResident (asleep.boot space.mapBacking)
      (runWakeCycle platform provider reader (sondeBpfInterpreter space overflowChecks) space board
        (asleep.boot space.mapBacking)).2 := by
  have noBlob : accepted.command.blob = none := by
    rcases awaitCommand_noBlob awaited with nop | none
    · cases nop.symm.trans command
    · exact none
  have listened : heard.still = (asleep.boot space.mapBacking).still := awaitCommand_still.ok awaited
  rw [runWakeCycle_device, cycle, bind_run, awaited]
  dsimp only
  rw [obeyCommand_ephemeral command, bind_run]
  have prepared : (untilExecution platform provider reader space board accepted expectedHash programSize chunkSize chunkCount
      heard).2.still = (asleep.boot space.mapBacking).still :=
    Meets.ends (untilExecution_stands noBlob expectedHash programSize chunkSize chunkCount) listened
  cases run : untilExecution platform provider reader space board accepted expectedHash programSize chunkSize chunkCount
    heard with
  | mk result device =>
    rw [run] at prepared
    cases result with
    | error e => exact .of_still prepared
    | ok ready =>
      have storage : device.mapStorage = (asleep.boot space.mapBacking).mapStorage := congrArg Still.mapStorage prepared
      have executed := execution_same (fun map member => fromRtc_placed (storage ▸ member)) fun regions loaded =>
        avoids ready device regions run loaded
      exact (SameResident.of_still prepared).trans
        (executed.trans (.of_still (Fixes.after (fun _ => afterExecution_quiet.still) device)))

def ephemeralDevice (bytecode : Bytes) : Device Script :=
  let image := imageOf bytecode []
  { smallDevice [] ⟨[], [
      gatewayFrame plainProvider 7 (.command 100 0 (.runEphemeral (hashBytes plainProvider image) image.length 200 1) none),
      gatewayFrame plainProvider 100 (.chunk 0 image)]⟩ with
    mapStorage := ⟨mapBudget, [⟨⟨1, 4, 1, 1⟩, smallSpace.mapBacking⟩]⟩
    mem := Mem.write (fun _ => 0) (smallSpace.mapBacking + 4) [7] }

def ephemeralHeard (bytecode : Bytes) : Except Exit Accepted × Device Script :=
  awaitCommand scriptedPlatform plainProvider .definite ((ephemeralDevice bytecode).boot smallSpace.mapBacking)

def ephemeralCycle (bytecode : Bytes) : Device Script :=
  (runWakeCycle scriptedPlatform plainProvider .definite (sondeBpfInterpreter smallSpace true) smallSpace smallBoard
    ((ephemeralDevice bytecode).boot smallSpace.mapBacking)).2

def ephemeralAccepted (image : Bytes) : Accepted :=
  ⟨smallIdentity, hashBytes plainProvider [], some [],
    ⟨100, 0, .runEphemeral (hashBytes plainProvider image) image.length 200 1, none⟩⟩

theorem ephemeral_leaves_resident_exits : (ephemeralCycle exits).executed.isSome = true ∧
      SameResident ((ephemeralDevice exits).boot smallSpace.mapBacking) (ephemeralCycle exits) := by
  refine ⟨by decide +kernel, ?_⟩
  have awaited : (ephemeralHeard exits).1 = .ok (ephemeralAccepted (imageOf exits [])) := by decide +kernel
  have pair (run : Except Exit Accepted × Device Script) (first : run.1 = .ok (ephemeralAccepted (imageOf exits []))) :
      run = (.ok (ephemeralAccepted (imageOf exits [])), run.2) := Prod.ext first rfl
  have bytecode : (untilExecution scriptedPlatform plainProvider .definite smallSpace smallBoard
      (ephemeralAccepted (imageOf exits [])) (hashBytes plainProvider (imageOf exits [])) (imageOf exits []).length 200 1
      (ephemeralHeard exits).2).1.map (·.program.bytecode) = .ok exits := by
    decide +kernel
  refine ephemeral_leaves_resident scriptedPlatform plainProvider .definite smallSpace true smallBoard (ephemeralDevice exits)
    (ephemeralHeard exits).2 (ephemeralAccepted (imageOf exits [])) (hashBytes plainProvider (imageOf exits []))
    (imageOf exits []).length 200 1 (pair (ephemeralHeard exits) awaited) rfl ?_
  intro ready device regions run _ env map _ s _ inside
  rw [run] at bytecode
  have isExits : env.prog = exits := Except.ok.inj bytecode
  exact exits_avoids isExits _ map inside

theorem ephemeral_store_changes_map :
    ((ephemeralDevice (storesIntoMap ++ exits)).boot smallSpace.mapBacking).mapStorage.maps.map
        (fun map => map.data (ephemeralDevice (storesIntoMap ++ exits)).mem) = [[0, 0, 0, 0, 7]] ∧
      (ephemeralCycle (storesIntoMap ++ exits)).mapStorage.maps.map
        (fun map => map.data (ephemeralCycle (storesIntoMap ++ exits)).mem) = [[0, 0, 0, 0, 5]] := by
  decide +kernel

end Sonde.Node
