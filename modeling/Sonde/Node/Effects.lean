import Sonde.Node.WakeCycle

/-!
# What the parts of the wake cycle leave alone

`Still` is what only an installation, an UPDATE_SCHEDULE, the preparation of the maps and the program itself change;
`Log` is what was sent, `Mail` what is queued. The quiet parts of the cycle change none of them.
-/

namespace Sonde.Node
open Lib Lib.Program Protocol
open Bpf (Mem)

structure Log where
  startingSeq : Option (BitVec 64)
  currentSeq : BitVec 64
  passed : List Passed

structure Mail where
  asyncQueue : AsyncQueue
  pushed : List Bytes

structure Still where
  key : Option NodeIdentity
  scheduleInterval : Nat
  activePartition : Nat
  programs : Nat → Option Bytes
  mapStorage : MapStorage
  mem : Mem
  executed : Option Execution

variable {τ ε α : Type}

def Radio.log (radio : Radio τ) : Log := ⟨radio.startingSeq, radio.currentSeq, radio.passed⟩

def Device.log (device : Device τ) : Log := device.host.radio.log

def Device.still (device : Device τ) : Still :=
  ⟨device.storage.key, device.storage.scheduleInterval, device.storage.activePartition, device.storage.programs,
    device.mapStorage, device.mem, device.executed⟩

def Host.mail (host : Host τ) : Mail := ⟨host.asyncQueue, host.pushed⟩

def Device.mail (device : Device τ) : Mail := device.host.mail

def Device.core (device : Device τ) : Still × Log × Mail := (device.still, device.log, device.mail)

abbrev Quiet (m : Program (Device τ) ε α) : Prop := Fixes Device.core m

theorem Quiet.still {m : Program (Device τ) ε α} (quiet : Quiet m) : Fixes Device.still m := Fixes.comp quiet Prod.fst

theorem Quiet.log {m : Program (Device τ) ε α} (quiet : Quiet m) : Fixes Device.log m := Fixes.comp quiet (·.2.1)

theorem Quiet.mail {m : Program (Device τ) ε α} (quiet : Quiet m) : Fixes Device.mail m := Fixes.comp quiet (·.2.2)

theorem ask_quiet (f : τ → α × τ) : Quiet (ask f : Program (Device τ) ε α) := fun _ => rfl

theorem act_quiet (f : τ → τ) : Quiet (act f : Program (Device τ) ε Unit) := fun _ => rfl

theorem setSleepMgr_quiet (f : SleepManager → SleepManager) : Quiet (setSleepMgr f : Program (Device τ) ε Unit) :=
  fun _ => rfl

theorem setQueue_still (queue : AsyncQueue) : Fixes Device.still (setQueue queue : Program (Device τ) ε Unit) :=
  fun _ => rfl

theorem setQueue_log (queue : AsyncQueue) : Fixes Device.log (setQueue queue : Program (Device τ) ε Unit) := fun _ => rfl

theorem takeEarlyWakeFlag_quiet : Quiet (takeEarlyWakeFlag : Program (Device τ) ε Bool) := fun _ => rfl

attribute [grind ←] ask_quiet act_quiet setSleepMgr_quiet takeEarlyWakeFlag_quiet

section
variable {platform : Platform τ} {provider : Provider} {board : BoardLayout} (call : StorageCall)

theorem readOr_run (default : α) (view : Storage → α) (device : Device τ) :
    (readOr platform call default view : Program (Device τ) ε α) device =
      (.ok (if (platform.fails call device.host.radio.world).1 then default else view device.storage),
        { device with host := device.host.setWorld (platform.fails call device.host.radio.world).2 }) := by
  simp only [readOr, bind_run, ask]
  split <;> rfl

theorem writeStorage_run (reason : String) (change : Storage → Storage) (device : Device τ) :
    writeStorage platform call reason change device =
      if (platform.fails call device.host.radio.world).1 then (.error (.storageError reason),
        { device with host := device.host.setWorld (platform.fails call device.host.radio.world).2 })
      else (.ok (), { device with
        host := device.host.setWorld (platform.fails call device.host.radio.world).2
        storage := change device.storage }) := by
  simp only [writeStorage, bind_run, ask]
  split <;> rfl

@[grind ←] theorem readOr_quiet (default : α) (view : Storage → α) :
    Quiet (readOr platform call default view : Program (Device τ) ε α) := by
  grind [readOr]

variable {γ : Type} {view : Device τ → γ}

theorem writeStorage_fixes {call : StorageCall} {reason : String} {change : Storage → Storage}
    (asks : Fixes view (ask (platform.fails call) : Program (Device τ) NodeError Bool))
    (aside : ∀ device : Device τ, view { device with storage := change device.storage } = view device) :
    Fixes view (writeStorage platform call reason change) :=
  .bind asks fun _ => .ite (.stop _) (.update aside)

theorem prepareMaps_fixes {space : AddressSpace}
    (sleeps : Fixes view (captureBatteryThenSleep platform board : Cycle τ Unit))
    (aside : ∀ device mapStorage mem, view { device with mapStorage := mapStorage, mem := mem } = view device)
    (program : LoadedProgram) (installedThisCycle : Bool) :
    Fixes view (prepareMaps platform space board program installedThisCycle) := by
  refine .bind (.read _) fun mapStorage => .bind (.read _) fun mem => ?_
  refine .ite (.ite sleeps (.pure _)) (.ite ?_ (.pure _))
  have sets (maps : MapStorage × Bpf.Mem) : Fixes view (setMaps maps) := .update fun _ => aside _ _ _
  split
  · exact .bind (sets _) fun _ => sleeps
  · exact sets _

theorem onRadio_meets {P L : Radio τ → Prop} {Q : α → Radio τ → Prop} {exchange : Exchange τ α} (met : Meets P exchange Q L) :
    Meets (fun device : Device τ => P device.host.radio) (onRadio exchange) (fun a device => Q a device.host.radio)
      fun device => L device.host.radio := by
  refine ⟨fun device before => ?_⟩
  have exits := met.exits device.host.radio before
  simp only [onRadio]
  cases run : exchange device.host.radio with
  | mk result radio =>
    rw [run] at exits
    cases result with
    | ok a => exact exits
    | error e => exact exits

@[grind ←] theorem erasePeerPayload_quiet : Quiet (erasePeerPayload platform) :=
  writeStorage_fixes (ask_quiet _) fun _ => rfl

@[grind ←] theorem writeRegComplete_quiet (complete : Bool) : Quiet (writeRegComplete platform complete) :=
  writeStorage_fixes (ask_quiet _) fun _ => rfl

@[grind ←] theorem writeLastBatteryMv_quiet (batteryMv : Nat) : Quiet (writeLastBatteryMv platform batteryMv) :=
  writeStorage_fixes (ask_quiet _) fun _ => rfl

@[grind ←] theorem setEarlyWakeFlag_quiet : Quiet (setEarlyWakeFlag platform) :=
  writeStorage_fixes (ask_quiet _) fun _ => rfl

@[grind ←] theorem readSchedule_quiet : Quiet (readSchedule platform : Program (Device τ) ε (Nat × Nat)) := by
  grind [readSchedule]

@[grind ←] theorem loadActiveRaw_quiet :
    Quiet (loadActiveRaw platform provider : Program (Device τ) ε (Bytes × Option Bytes)) := by
  refine .bind readSchedule_quiet fun schedule => .ite (.pure _) ?_
  refine .bind (readOr_quiet _ _ _) fun image => ?_
  cases image with
  | none => exact .pure _
  | some imageBytes => exact .pure _

@[grind ←] theorem logAndSleep_quiet : Quiet (logAndSleep : Cycle τ α) := by grind [logAndSleep]

theorem captureCurrentCycleBattery_quiet : Quiet (captureCurrentCycleBattery platform board) := by
  unfold captureCurrentCycleBattery
  cases batteryChannel board with
  | none => exact .pure _
  | some channel => grind

@[grind ←] theorem persistCurrentCycleBattery_quiet : Quiet (persistCurrentCycleBattery platform board) := by
  grind [persistCurrentCycleBattery, captureCurrentCycleBattery_quiet]

@[grind ←] theorem enterActive_quiet : Quiet (enterActive platform board) := by grind [enterActive]

@[grind ←] theorem captureBatteryThenSleep_quiet : Quiet (captureBatteryThenSleep platform board : Cycle τ α) := by
  grind [captureBatteryThenSleep]

theorem captureBatteryThenSleep_sleeps {P : Still × Log × Mail → Prop} {Q : α → Device τ → Prop} :
    Meets (fun device : Device τ => P device.core) (captureBatteryThenSleep platform board) Q fun device => P device.core := by
  have quietly {β : Type} {m : Cycle τ β} (quiet : Quiet m) : Preserves (fun device : Device τ => P device.core) m :=
    Fixes.meets quiet
  refine .bind (quietly enterActive_quiet) fun _ => .bind (quietly persistCurrentCycleBattery_quiet) fun _ =>
    .bind (quietly (act_quiet _)) fun _ => ?_
  exact .bind (quietly (.read _)) fun _ => .stop fun _ holds => holds

variable (platform) in
def afterExecution : Cycle τ Empty := do
  act platform.enterIdleGpioState
  let sleepMgr ← Program.read fun device => device.host.sleepMgr
  Program.onlyIf sleepMgr.willWakeEarly do
    let _ ← Program.attempt (setEarlyWakeFlag platform)
    return ()
  logAndSleep

theorem afterExecution_quiet : Quiet (afterExecution platform) := by
  refine .bind (act_quiet _) fun _ => .bind (.read _) fun _ => ?_
  refine .bind (.onlyIf ?_) fun _ => logAndSleep_quiet
  exact .bind (.attempt setEarlyWakeFlag_quiet) fun _ => .pure _

theorem executeAndSleep_preserves {reader : Cbor.Reader} {interpreter : BpfInterpreter (Host τ)} {space : AddressSpace}
    {identity : NodeIdentity} {command : Command} {commandReceivedAt : Nat} {I : Device τ → Prop}
    (quietly : ∀ {β : Type} {m : Cycle τ β}, Quiet m → Preserves I m)
    (prepares : ∀ program installedThisCycle, Preserves I (prepareMaps platform space board program installedThisCycle))
    (executes : ∀ batteryMv program, Preserves I
      (executeBpf platform provider reader interpreter space identity command commandReceivedAt batteryMv program))
    (installed resident : Option LoadedProgram) : Preserves I (executeAndSleep platform provider reader interpreter space board
      identity command commandReceivedAt installed resident) := by
  have each (program : Option LoadedProgram) {m : LoadedProgram → Cycle τ Unit} (kept : ∀ p, Preserves I (m p)) :
      Preserves I (forProgram program m) := by
    cases program with
    | none => exact .pure fun _ h => h
    | some program => exact kept program
  refine .bind (each _ fun program => prepares program _) fun _ => .bind (quietly enterActive_quiet) fun _ => ?_
  refine .bind (quietly persistCurrentCycleBattery_quiet) fun batteryMv => ?_
  exact .bind (each _ (executes batteryMv)) fun _ => quietly afterExecution_quiet

end

end Sonde.Node
