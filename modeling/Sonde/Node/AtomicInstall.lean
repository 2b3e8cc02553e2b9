import Sonde.Node.FreshStart

/-!
# The active program across installations

`installResident` writes the partition that `readSchedule` says is not active. A read that fails says 0.
-/

namespace Sonde.Node
open Lib Lib.Program Protocol

variable {τ : Type}

structure InstallCall (τ : Type) where
  platform : Platform τ
  imageBytes : Bytes
  expectedHash : Bytes
  budget : Nat

section
variable (provider : Provider) (reader : Cbor.Reader)

def InstallCall.run (call : InstallCall τ) : Program (Device τ) NodeError LoadedProgram :=
  installResident call.platform provider reader call.imageBytes call.expectedHash call.budget

def installed (device : Device τ) (call : InstallCall τ) : Device τ := (call.run provider reader device).2

/-- A call that returns has made its checked image the active one; a call that fails has left the active one as it was. -/
def InstallCall.Atomic (device : Device τ) (call : InstallCall τ) : Prop :=
  match call.run provider reader device with
  | (.ok _, after) =>
    after.activeImage = some call.imageBytes ∧ hashBytes provider call.imageBytes = call.expectedHash ∧
      ∃ image, ProgramImage.decode reader call.imageBytes = .ok image ∧ MapStorage.requiredBytes image.maps ≤ call.budget
  | (.error _, after) =>
    after.storage.activePartition = device.storage.activePartition ∧ after.activeImage = device.activeImage

/-- The call's read of the active partition does not fail, or would give 0 anyway. -/
def InstallCall.ReadsIndex (device : Device τ) (call : InstallCall τ) : Prop :=
  device.storage.activePartition = 0 ∨
    (call.platform.fails .readActivePartition (call.platform.fails .readInterval device.host.radio.world).2).1 = false

end

variable {provider : Provider} {reader : Cbor.Reader} {device : Device τ} {call : InstallCall τ}

theorem readSchedule_index (reads : call.ReadsIndex device) :
    Meets (· = device) (readSchedule call.platform : Program (Device τ) NodeError (Nat × Nat))
      (fun schedule after => schedule.2 = device.storage.activePartition ∧ after.still = device.still)
      fun after => after.still = device.still := by
  refine ⟨fun start same => ?_⟩
  subst start
  simp only [readSchedule, bind_run, readOr_run, pure_run]
  refine ⟨?_, rfl⟩
  rcases reads with zero | read
  · rw [zero]
    exact ite_self 0
  · exact if_neg (Bool.eq_false_iff.mp read)

theorem installResident_atomic (reads : call.ReadsIndex device) (unique : NoCollision provider call.platform) :
    call.Atomic provider reader device := by
  have meets : Meets (· = device) (call.run provider reader)
      (fun program after => ∃ image, (checkResident provider reader call.imageBytes call.expectedHash call.budget = .ok image ∧
        program = loadedFrom image (hashBytes provider call.imageBytes) false) ∧
        after.still = device.still.switched call.imageBytes)
      fun after => Spared device.still after.still :=
    installResident_outcome (fun _ same => congrArg Device.still same) (readSchedule_index reads) unique _ _ _
  have outcome := meets.exits device rfl
  unfold InstallCall.Atomic
  revert outcome
  rcases call.run provider reader device with ⟨failed | program, after⟩
  · intro spared
    exact ⟨spared.activePartition, spared.unswitched.active⟩
  · rintro ⟨image, ⟨checked, -⟩, same⟩
    obtain ⟨hash, decoded, fits⟩ := checkResident_ok checked
    have active := device.still.switched_activeImage call.imageBytes
    rw [← same] at active
    exact ⟨active, hash, image, decoded, fits⟩

theorem installs_atomic (provider : Provider) (reader : Cbor.Reader) (device : Device τ) (calls : List (InstallCall τ))
    (conditions : Throughout (installed provider reader)
      (fun device call => call.ReadsIndex device ∧ NoCollision provider call.platform) device calls) :
    Throughout (installed provider reader) (InstallCall.Atomic provider reader) device calls :=
  Throughout.mono (K := fun _ => True) (fun _ _ _ _ => trivial)
    (fun _ _ _ meets => installResident_atomic meets.1 meets.2) trivial conditions

-- A write erases the partition and then fails.
def failingWrites : Platform Script := { scriptedPlatform with writeProgram := fun _ script => ((false, none), script) }

def secondActive : Device Script :=
  let device := smallDevice [] ⟨[], []⟩
  { device with storage := { device.storage with
      activePartition := 1
      programs := fun partition => if partition = 1 then some (imageOf (exits ++ exits) []) else none } }

def installNew (platform : Platform Script) : InstallCall Script :=
  ⟨platform, newImage, hashBytes lengthProvider newImage, mapBudget⟩

def afterFailure : Device Script := installed lengthProvider .definite secondActive (installNew failingWrites)

theorem installs_atomic_retried : afterFailure.activeImage = some (imageOf (exits ++ exits) []) ∧
      ((installNew scriptedPlatform).run lengthProvider .definite afterFailure).1.isOk ∧
      Throughout (installed lengthProvider .definite) (InstallCall.Atomic lengthProvider .definite) secondActive
        [installNew failingWrites, installNew scriptedPlatform] := by
  have unique : NoCollision lengthProvider scriptedPlatform := by
    rintro image world left ⟨⟩ _
    rfl
  refine ⟨by decide +kernel, by decide +kernel, installs_atomic lengthProvider .definite secondActive
    [installNew failingWrites, installNew scriptedPlatform] ⟨⟨.inr rfl, fun _ _ _ erased => nomatch erased⟩, ⟨.inr rfl, unique⟩, trivial⟩⟩

-- The flash cannot read `active_p` either.
def unreadableIndex : Platform Script :=
  { failingWrites with fails := fun call script => (decide (call = .readActivePartition), script) }

theorem unread_index_overwrites_active : secondActive.activeImage = some (imageOf (exits ++ exits) []) ∧
      (installed lengthProvider .definite secondActive (installNew unreadableIndex)).activeImage = none ∧
      ¬(installNew unreadableIndex).Atomic lengthProvider .definite secondActive := by
  have before : secondActive.activeImage = some (imageOf (exits ++ exits) []) := by decide +kernel
  have erased : (installed lengthProvider .definite secondActive (installNew unreadableIndex)).activeImage = none := by
    decide +kernel
  have failed : ((installNew unreadableIndex).run lengthProvider .definite secondActive).1.isOk = false := by decide +kernel
  refine ⟨before, erased, ?_⟩
  unfold InstallCall.Atomic
  unfold installed at erased
  revert failed erased
  rcases (installNew unreadableIndex).run lengthProvider .definite secondActive with ⟨_ | _, after⟩
  · intro erased _ atomic
    cases erased.symm.trans (atomic.2.trans before)
  · intro _ failed
    cases failed

end Sonde.Node
