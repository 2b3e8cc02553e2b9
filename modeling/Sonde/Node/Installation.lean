import Sonde.Node.Effects

/-!
# The installation of a program

The cycle splits at the COMMAND: `awaitCommand` leaves the program partitions alone, and what `obeyCommand` does to them
depends on the command.
-/

namespace Sonde.Node
open Lib Lib.Program Protocol Device

variable {τ : Type}

variable {α : Type}

/-! ## What they do to the partitions -/

structure Partitions where
  active : Nat
  programs : Nat → Option Bytes

def Device.partitions (device : Device τ) : Partitions := ⟨device.storage.activePartition, device.storage.programs⟩

def Device.orders (device : Device τ) : Nat × Partitions := (device.storage.scheduleInterval, device.partitions)

variable {m : Program (Device τ) ε α}
    {platform : Platform τ} {provider : Provider} {reader : Cbor.Reader} {interpreter : BpfInterpreter (Host τ)}
    {space : AddressSpace} {board : BoardLayout} {identity : NodeIdentity} {ε : Type}

theorem still_partitions (fixed : Fixes still m) : Fixes partitions m :=
  fixed.comp fun still => Partitions.mk still.activePartition still.programs

theorem still_orders (fixed : Fixes still m) : Fixes orders m :=
  fixed.comp fun still => (still.scheduleInterval, Partitions.mk still.activePartition still.programs)

theorem startCycle_quiet : Quiet (startCycle platform) := by
  refine .bind (readOr_quiet _ _ _) fun key => ?_
  cases key with
  | none => exact .stop _
  | some identity =>
    refine .bind (ask_quiet _) fun healthy => .ite ?_ ?_
    · exact .bind readSchedule_quiet fun _ => .bind (setSleepMgr_quiet _) fun _ => logAndSleep_quiet
    · exact .bind takeEarlyWakeFlag_quiet fun early => .bind readSchedule_quiet fun schedule =>
        .bind (setSleepMgr_quiet _) fun _ => .pure _

theorem storedRequest_quiet : Quiet (storedRequest platform) :=
  .bind (readOr_quiet _ _ _) fun _ => .ite (.pure _) (readOr_quiet _ _ _)

theorem settleWake_failed_quiet (wakeBlob : Option Bytes) (e : NodeError) : Quiet (settleWake platform wakeBlob (.error e)) := by
  refine .bind (readOr_quiet _ _ _) fun complete => .bind (readOr_quiet _ _ _) fun payload => ?_
  refine .bind (.onlyIf ?_) fun _ => logAndSleep_quiet
  exact .bind (.attempt (writeRegComplete_quiet _)) fun _ => .pure _

def Device.unheard (device : Device τ) : Still × Mail := (device.still, device.mail)

theorem Quiet.unheard (quiet : Quiet m) : Fixes unheard m := Fixes.comp quiet fun core => (core.1, core.2.2)

theorem onRadio_unheard (exchange : Exchange τ α) : Fixes unheard (onRadio exchange) := fun _ => rfl

theorem onRadio_still (exchange : Exchange τ α) : Fixes still (onRadio exchange) := (onRadio_unheard exchange).comp Prod.fst

theorem heedRelay_quiet (result : Except NodeError Bool) : Quiet (heedRelay platform result) := by
  unfold heedRelay
  split
  · exact .pure _
  · exact logAndSleep_quiet
  · exact .bind (.attempt erasePeerPayload_quiet) fun _ => logAndSleep_quiet
  · exact logAndSleep_quiet

theorem acknowledged_quiet (acked : Bool) : Quiet (do
      Program.onlyIf acked (writeRegComplete platform true)
      return acked) :=
  .bind (.onlyIf (writeRegComplete_quiet _)) fun _ => .pure _

theorem relayRequest_unheard (completeFrame : Bytes) :
    Fixes unheard (relayRequest platform provider reader identity completeFrame) :=
  .bind (.attempt (.bind (onRadio_unheard _) fun acked => (acknowledged_quiet acked).unheard)) fun result =>
    (heedRelay_quiet result).unheard

theorem relayRequest_log (completeFrame : Bytes) (device : Device τ) :
    (relayRequest platform provider reader identity completeFrame device).2.log =
      (peerRequestExchange platform.toLink provider reader identity completeFrame device.host.radio).2.log :=
  (Fixes.after (fun result => (heedRelay_quiet result).log) device).trans
    (Fixes.after (m := onRadio _) (fun acked => (acknowledged_quiet acked).log) device)

theorem registerPeer_unheard : Fixes unheard (registerPeer platform provider reader identity) := by
  refine .bind storedRequest_quiet.unheard fun request => ?_
  cases request with
  | none => exact .pure _
  | some completeFrame => exact relayRequest_unheard completeFrame

theorem offerWake_unheard (programHash : Bytes) :
    Fixes unheard (offerWake platform provider reader identity programHash) :=
  .bind (ask_quiet _).unheard fun _ => .bind (.read _) fun _ => .bind (.read _) fun _ =>
    .bind (.attempt (onRadio_unheard _)) fun _ => .pure _

theorem registerPeer_still : Fixes still (registerPeer platform provider reader identity) :=
  registerPeer_unheard.comp Prod.fst

theorem settleWake_unsent (wakeBlob : Option Bytes) (result : Except NodeError Command) :
    Fixes (fun device => (device.still, device.log)) (settleWake platform wakeBlob result) := by
  have unsent {ε β : Type} {m : Program (Device τ) ε β} (quiet : Quiet m) :
      Fixes (fun device : Device τ => (device.still, device.log)) m := Fixes.comp quiet fun core => (core.1, core.2.1)
  cases result with
  | error e => exact unsent (settleWake_failed_quiet wakeBlob e)
  | ok command =>
    refine .bind (unsent (readOr_quiet _ _ _)) fun payload => .bind (.onlyIf ?_) fun _ => ?_
    · exact .bind (.attempt (unsent erasePeerPayload_quiet)) fun _ => .pure _
    · exact .bind (.onlyIf fun _ => rfl) fun _ => .pure _

theorem exchangeWake_still (programHash : Bytes) :
    Fixes still (exchangeWake platform provider reader identity programHash) := by
  exact .bind ((offerWake_unheard programHash).comp Prod.fst) fun offered => (settleWake_unsent _ _).comp Prod.fst

theorem prepareWake_still : Fixes still (prepareWake platform provider reader) := by
  exact .bind startCycle_quiet.still fun identity => .bind registerPeer_still fun _ =>
    .bind loadActiveRaw_quiet.still fun resident => .pure _

theorem awaitCommand_still : Fixes still (awaitCommand platform provider reader) :=
  .bind prepareWake_still fun _ => .bind (exchangeWake_still _) fun _ => .pure _

def Device.spared (device : Device τ) : Nat × Log := (device.storage.scheduleInterval, device.log)

theorem installResident_spares (imageBytes expectedHash : Bytes) (budget : Nat) :
    Fixes spared (installResident platform provider reader imageBytes expectedHash budget) := by
  have spares {ε β : Type} {m : Program (Device τ) ε β} (quiet : Quiet m) : Fixes spared m :=
    Fixes.comp quiet fun core => (core.1.scheduleInterval, core.2.1)
  refine .bind (.ofExcept _) fun image => .bind (spares readSchedule_quiet) fun schedule => ?_
  refine .ite (.stop _) (.bind ?_ fun _ => .bind (spares (readOr_quiet _ _ _)) fun written => ?_)
  · refine .bind (spares (ask_quiet _)) fun answer => .bind (.update fun _ => rfl) fun _ => ?_
    exact .ite (.pure _) (.stop _)
  · cases written with
    | none => exact .stop _
    | some bytes =>
      exact .ite (.stop _) (.bind (writeStorage_fixes (spares (ask_quiet _)) fun _ => rfl) fun _ => .pure _)

def Switched (provider : Provider) (p : Nat) (asked : Bytes → Prop) (partitions : Partitions) : Prop :=
  partitions.active = p ∨ ∃ image, partitions.programs partitions.active = some image ∧ asked (hashBytes provider image)

abbrev Switches (provider : Provider) (p : Nat) (asked : Bytes → Prop) (m : Program (Device τ) ε α) : Prop :=
  Meets (fun device => device.partitions.active = p) m (fun _ device => Switched provider p asked device.partitions)
    fun device => Switched provider p asked device.partitions

variable {p : Nat} {asked : Bytes → Prop}

theorem unswitched (fixed : Fixes partitions m) :
    Meets (fun device : Device τ => device.partitions.active = p) m (fun _ device => device.partitions.active = p)
      fun device => Switched provider p asked device.partitions :=
  .early (Fixes.meets (P := fun partitions => partitions.active = p) fixed) fun _ same => .inl same

theorem afterSwitch (fixed : Fixes partitions m) :
    Preserves (fun device : Device τ => Switched provider p asked device.partitions) m :=
  Fixes.meets fixed

theorem readProgram_found {partition : Nat} {P : Partitions → Prop} :
    Meets (fun device : Device τ => P device.partitions) (readProgram platform partition : Program (Device τ) ε (Option Bytes))
      (fun found device => P device.partitions ∧ ∀ image, found = some image → device.storage.programs partition = some image)
      fun device => P device.partitions := by
  refine .bind (Fixes.meets (still_partitions (ask_quiet _).still)) fun fault => .ite (fun _ => ?_) fun _ => ?_
  · exact .pure fun device holds => ⟨holds, fun _ none => by cases none⟩
  · exact .conseq .read (fun _ holds => holds) (fun found device read => ⟨read.1, fun image same => read.2.trans same⟩)
      fun _ holds => holds

theorem installResident_switches (imageBytes expectedHash : Bytes) (budget : Nat) (expected : asked expectedHash) :
    Switches provider p asked (installResident platform provider reader imageBytes expectedHash budget) := by
  refine .bind (unswitched (.ofExcept _)) fun image => ?_
  refine .bind (unswitched (still_partitions readSchedule_quiet.still)) ?_
  rintro ⟨interval, activePartition⟩
  refine .ite (fun _ => .stop fun _ same => .inl same) fun _ => ?_
  refine .bind (Q := fun _ device => device.partitions.active = p) ?_ fun _ => ?_
  · refine .bind (unswitched (still_partitions (ask_quiet _).still)) ?_
    rintro ⟨written, left⟩
    refine .next (.update fun _ same => same) fun _ => ?_
    exact .ite (fun _ => .pure fun _ same => same) fun _ => .stop fun _ same => .inl same
  refine .bind (.early (readProgram_found (P := fun partitions => partitions.active = p)) fun _ same => .inl same) fun written => ?_
  cases written with
  | none => exact .stop fun _ found => .inl found.1
  | some writtenBytes =>
    refine .ite (fun _ => .stop fun _ found => .inl found.1) fun verified => ?_
    have hash : hashBytes provider writtenBytes = expectedHash := not_not.mp verified
    refine .bind (Q := fun _ device => Switched provider p asked device.partitions) ?_ fun _ =>
      .pure fun _ switched => switched
    let stored (partitions : Partitions) := partitions.active = p ∧
      partitions.programs (1 - activePartition) = some writtenBytes
    refine .bind (Q := fun _ device => stored device.partitions) ?_ fun fault => .ite (fun _ => ?_) fun _ => ?_
    · exact .conseq (Fixes.meets (P := stored) (still_partitions (ask_quiet _).still))
        (fun _ found => ⟨found.1, found.2 _ rfl⟩) (fun _ _ found => found) fun _ found => .inl found.1
    · exact .stop fun _ found => .inl found.1
    · exact .update fun _ found => .inr ⟨writtenBytes, found.2, hash ▸ expected⟩

theorem fetchProgram_switches (isEphemeral : Bool) (expectedHash : Bytes)
    (programSize chunkSize chunkCount budget : Nat) (expected : isEphemeral = false → asked expectedHash) :
    Switches provider p asked
      (fetchProgram platform provider reader identity isEphemeral expectedHash programSize chunkSize chunkCount budget) := by
  refine .bind (unswitched (still_partitions (onRadio_still _))) fun imageBytes => ?_
  refine .bind (Q := fun _ device => Switched provider p asked device.partitions) ?_ fun program =>
    afterSwitch (.bind (still_partitions (onRadio_still _)) fun _ => .pure _)
  cases isEphemeral with
  | true => exact .conseq (unswitched (.ofExcept _)) (fun _ same => same) (fun _ _ same => .inl same) fun _ left => left
  | false => exact installResident_switches _ _ _ (expected rfl)

theorem transferProgram_switches (isEphemeral : Bool) (expectedHash : Bytes) (programSize chunkSize chunkCount : Nat)
    (expected : isEphemeral = false → asked expectedHash) :
    Switches provider p asked
      (transferProgram platform provider reader board identity isEphemeral expectedHash programSize chunkSize chunkCount) := by
  refine .bind (unswitched (still_partitions (setQueue_still _))) fun _ => ?_
  refine .bind (unswitched (.read _)) fun budget => ?_
  refine .bind (.uniform (fetchProgram_switches isEphemeral expectedHash programSize chunkSize chunkCount budget
    expected)) fun result => ?_
  cases result with
  | error e => exact afterSwitch (still_partitions captureBatteryThenSleep_quiet.still)
  | ok program => exact afterSwitch (.bind (.onlyIf (still_partitions (setSleepMgr_quiet _).still)) fun _ => .pure _)

theorem sendPending_still (blobs : AsyncQueue) : Fixes still (sendPending platform provider identity blobs) := by
  induction blobs with
  | nil => exact .pure _
  | cons blob blobs ih => exact .bind (onRadio_still _) fun _ => ih

theorem drainQueue_still : Fixes still (drainQueue platform provider identity) :=
  .bind (.read _) fun _ => .bind (setQueue_still _) fun _ => .bind (.attempt (sendPending_still _)) fun _ => .pure _

def Updates (command : CommandPayload) (programHash : Bytes) : Prop :=
  ∃ programSize chunkSize chunkCount, command = .updateProgram programHash programSize chunkSize chunkCount

theorem dispatchCommand_switches (command : CommandPayload) :
    Switches provider p (Updates command) (dispatchCommand platform provider reader board identity command) := by
  have stays {β : Type} {m : Cycle τ β} (fixed : Fixes partitions m) : Switches provider p (Updates command) m :=
    .conseq (unswitched fixed) (fun _ same => same) (fun _ _ same => .inl same) fun _ left => left
  cases command with
  | nop => exact stays (.bind (still_partitions drainQueue_still) fun _ => .pure _)
  | reboot => exact stays (.stop _)
  | updateSchedule intervalS =>
    exact stays (.bind (.attempt (writeStorage_fixes (fun _ => rfl) fun _ => rfl)) fun _ =>
      .bind (.onlyIf (still_partitions (setSleepMgr_quiet _).still)) fun _ => .pure _)
  | updateProgram programHash programSize chunkSize chunkCount =>
    exact .bind (transferProgram_switches false programHash programSize chunkSize chunkCount
      fun _ => ⟨programSize, chunkSize, chunkCount, rfl⟩) fun _ => .pure fun _ switched => switched
  | runEphemeral programHash programSize chunkSize chunkCount =>
    exact .bind (transferProgram_switches true programHash programSize chunkSize chunkCount (by rintro ⟨⟩))
      fun _ => .pure fun _ switched => switched

theorem executeBpf_orders (command : Command) (commandReceivedAt batteryMv : Nat) (program : LoadedProgram) :
    Fixes orders
      (executeBpf platform provider reader interpreter space identity command commandReceivedAt batteryMv program) :=
  .bind (still_orders (ask_quiet _).still) fun _ => .bind (.read _) fun _ =>
    .bind (.read _) fun _ => .ite (fun _ => rfl) (.pure _)

theorem executeAndSleep_orders (command : Command) (commandReceivedAt : Nat) (installed resident : Option LoadedProgram) :
    Fixes orders (executeAndSleep platform provider reader interpreter space board identity command
      commandReceivedAt installed resident) := by
  intro device
  have stays {β : Type} {m : Cycle τ β} (fixed : Fixes orders m) :
      Preserves (fun after : Device τ => after.orders = device.orders) m := Fixes.meets (P := (· = _)) fixed
  have sleeps : Fixes orders (captureBatteryThenSleep platform board : Cycle τ Unit) :=
    still_orders captureBatteryThenSleep_quiet.still
  exact (executeAndSleep_preserves (fun quiet => stays (still_orders quiet.still))
    (fun _ _ => stays (prepareMaps_fixes sleeps (fun _ _ _ => rfl) _ _)) (fun _ _ => stays (executeBpf_orders _ _ _ _))
    installed resident).ends rfl

theorem obeyCommand_switches (accepted : Accepted) (p : Nat) : Switches provider p (Updates accepted.command.payload)
      (obeyCommand platform provider reader interpreter space board accepted) :=
  .bind (unswitched (.update fun _ => rfl)) fun _ => .bind (unswitched (still_partitions (ask_quiet _).still))
    fun _ => .bind (dispatchCommand_switches _) fun _ => afterSwitch ((executeAndSleep_orders _ _ _ _).comp Prod.snd)

theorem runWakeCycle_device (device : Device τ) :
    (runWakeCycle platform provider reader interpreter space board device).2 =
      (cycle platform provider reader interpreter space board device).2 := by
  unfold runWakeCycle
  split
  · rename_i run
    rw [run]
  · rename_i run
    rw [run]

theorem runWakeCycle_switches {device after : Device τ}
    (ended : (runWakeCycle platform provider reader interpreter space board device).2 = after)
    (changes : after.storage.activePartition ≠ device.storage.activePartition) :
    ∃ accepted heard image, awaitCommand platform provider reader device = (.ok accepted, heard) ∧
      after.storage.programs after.storage.activePartition = some image ∧
      Updates accepted.command.payload (hashBytes provider image) := by
  rw [runWakeCycle_device, cycle, bind_run] at ended
  have awaited : (awaitCommand platform provider reader device).2.partitions = device.partitions :=
    still_partitions awaitCommand_still device
  cases run : awaitCommand platform provider reader device with
  | mk result heard =>
    rw [run] at ended awaited
    have same : heard.storage.activePartition = device.storage.activePartition := congrArg Partitions.active awaited
    cases result with
    | error e =>
      obtain rfl : heard = after := ended
      exact absurd same changes
    | ok accepted =>
      have switched : Switched provider device.storage.activePartition (Updates accepted.command.payload)
          (obeyCommand platform provider reader interpreter space board accepted heard).2.partitions :=
        (obeyCommand_switches accepted _).ends same
      obtain rfl : (obeyCommand platform provider reader interpreter space board accepted heard).2 = after := ended
      rcases switched with stays | ⟨image, installed, named⟩
      · exact absurd stays changes
      · exact ⟨accepted, heard, image, rfl, installed, named⟩

/-! ## Where the COMMAND comes from -/

section
variable {P : Command → τ → Prop}

variable (platform provider reader identity P) in
def Hears : Prop :=
  ∀ nonce raw world world' command, platform.recv responseTimeoutMs world = (.ok (some raw), world') →
    verifyAndDecodeCommand provider reader identity raw nonce = .ok command → P command world'

variable (hears : Hears platform provider reader identity P)

include hears in
theorem receive_heard (nonce : BitVec 64) :
    Meets (fun _ => True) (receive platform.toLink responseTimeoutMs)
      (fun response radio => ∀ raw command, response = some raw →
        verifyAndDecodeCommand provider reader identity raw nonce = .ok command → P command radio.world) fun _ => True := by
  refine ⟨fun radio _ => ?_⟩
  unfold receive
  cases run : platform.recv responseTimeoutMs radio.world with
  | mk result world =>
    cases result with
    | error e => trivial
    | ok response =>
      rintro raw command rfl decoded
      exact hears nonce raw radio.world world command run decoded

include hears in
theorem wakeAttempts_heard (nonce : BitVec 64) (payload : Bytes)
    (left : Nat) : Meets (fun _ => True) (wakeAttempts platform.toLink provider reader identity nonce payload left)
      (fun command radio => P command radio.world) fun _ => True := by
  induction left with
  | zero => exact .stop fun _ _ => trivial
  | succ left ih =>
    have again {pre : Radio τ → Prop} :
        Meets pre (wakeAttempts platform.toLink provider reader identity nonce payload left)
          (fun command radio => P command radio.world) fun _ => True :=
      .conseq ih (fun _ _ => trivial) (fun _ _ heard => heard) fun _ _ => trivial
    refine .bind .trivially fun _ => .bind .trivially fun _ => .bind (receive_heard hears nonce) fun response => ?_
    cases response with
    | none => exact again
    | some raw =>
      dsimp only
      cases decoded : verifyAndDecodeCommand provider reader identity raw nonce with
      | ok command => exact .pure fun radio heard => heard raw command rfl decoded
      | error e => exact again

theorem aside_heard {command : Command}
    (kept : ∀ device : Device τ, P command device.host.radio.world → P command (m device).2.host.radio.world) :
    Meets (fun device : Device τ => P command device.host.radio.world) m
      (fun _ device => P command device.host.radio.world) fun _ => True := by
  refine ⟨fun device heard => ?_⟩
  have after := kept device heard
  split
  · rename_i run
    rwa [run] at after
  · trivial

theorem readOr_world (call : StorageCall) (default : α) (view : Storage → α) (device : Device τ) :
    (readOr platform call default view device : Except ε α × Device τ).2.host.radio.world =
      (platform.fails call device.host.radio.world).2 := by
  rw [readOr_run]
  rfl

theorem writeStorage_world (call : StorageCall) (reason : String) (change : Storage → Storage) (device : Device τ) :
    (writeStorage platform call reason change device).2.host.radio.world =
      (platform.fails call device.host.radio.world).2 := by
  rw [writeStorage_run]
  split <;> rfl

variable (keeps : ∀ call command world, P command world → P command (platform.fails call world).2)

include hears in
theorem offerWake_heard (programHash : Bytes) :
    Meets (fun _ => True) (offerWake platform provider reader identity programHash)
      (fun offered device => match offered.2 with
        | .ok command => P command device.host.radio.world
        | .error _ => True) fun _ => True := by
  refine .bind .trivially fun nonce => .bind .trivially fun batteryMv => .bind .trivially fun queue => ?_
  refine .bind (.conseq (.attempt (onRadio_meets (wakeAttempts_heard hears nonce _ _))) (fun _ _ => trivial)
    (fun _ _ heard => heard) fun _ never => never.elim) fun result => ?_
  cases result with
  | ok command => exact .pure fun _ heard => heard
  | error e => exact .pure fun _ heard => heard

include hears keeps in
theorem exchangeWake_heard (programHash : Bytes) :
    Meets (fun _ => True) (exchangeWake platform provider reader identity programHash)
      (fun command device => P command device.host.radio.world) fun _ => True := by
  refine .bind (offerWake_heard hears programHash) ?_
  rintro ⟨wakeBlob, result⟩
  cases result with
  | error e =>
    refine .bind .trivially fun _ => .bind .trivially fun _ => .bind .trivially fun _ => ?_
    exact .bind .trivially fun _ => .stop fun _ _ => trivial
  | ok command =>
    refine .bind (aside_heard fun device heard => ?_) fun payload => .bind (aside_heard fun device heard => ?_)
      fun _ => .bind (aside_heard fun device heard => ?_) fun _ => .pure fun _ heard => heard
    · rw [hasPeerPayload, readOr_world]
      exact keeps _ _ _ heard
    · unfold Program.onlyIf
      split
      · refine cast (congrArg (P command) (writeStorage_world .erasePeerPayload _ _ device).symm) (keeps _ _ _ heard)
      · exact heard
    · unfold Program.onlyIf
      split
      · exact heard
      · exact heard

variable {device ready : Device τ}

theorem startCycle_key (starts : startCycle platform device = (.ok identity, ready)) :
    device.storage.key = some identity := by
  obtain ⟨key, read, isRead, starts⟩ := bind_ok starts
  cases key with
  | none => cases starts
  | some found =>
    have stored : device.storage.key = some found := by
      rw [readKey, readOr_run] at isRead
      obtain ⟨value, -⟩ := Prod.mk.inj isRead
      split at value
      · cases value
      · exact Except.ok.inj value
    obtain ⟨healthy, checked, -, starts⟩ := bind_ok starts
    split at starts
    · obtain ⟨_, _, -, starts⟩ := bind_ok starts
      cases starts
    · obtain ⟨_, _, -, starts⟩ := bind_ok starts
      obtain ⟨_, _, -, starts⟩ := bind_ok starts
      cases starts
      exact stored

theorem prepareWake_key {programHash : Bytes} {residentImage : Option Bytes}
    (prepares : prepareWake platform provider reader device = (.ok (identity, programHash, residentImage), ready)) :
    device.storage.key = some identity := by
  obtain ⟨found, _, starts, prepares⟩ := bind_ok prepares
  obtain ⟨_, _, -, prepares⟩ := bind_ok prepares
  obtain ⟨_, _, -, prepares⟩ := bind_ok prepares
  cases prepares
  exact startCycle_key starts

theorem awaitCommand_key {accepted : Accepted} {heard : Device τ}
    (awaited : awaitCommand platform provider reader device = (.ok accepted, heard)) :
    device.storage.key = some accepted.identity := by
  obtain ⟨prepared, _, prepares, awaited⟩ := bind_ok awaited
  obtain ⟨_, _, -, awaited⟩ := bind_ok awaited
  cases awaited
  exact prepareWake_key prepares

include hears keeps in
theorem awaitCommand_heard :
    Meets (fun device : Device τ => device.storage.key = some identity) (awaitCommand platform provider reader)
      (fun accepted device => P accepted.command device.host.radio.world) fun _ => True := by
  refine .bind (Q := fun prepared _ => prepared.1 = identity ∧ True) ⟨fun device stored => ?_⟩ ?_
  · split
    · rename_i prepares
      exact ⟨Option.some.inj ((prepareWake_key prepares).symm.trans stored), trivial⟩
    · trivial
  · rintro ⟨found, programHash, residentImage⟩
    refine .given ?_
    rintro rfl
    exact .bind (exchangeWake_heard hears keeps _) fun command => .pure fun _ heard => heard

end

end Sonde.Node
