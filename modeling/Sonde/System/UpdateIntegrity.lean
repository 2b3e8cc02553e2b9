import Sonde.Gateway.ProgramLibrary
import Sonde.Node.Installation

/-!
# Updates through the air

A node and a gateway. What the gateway receives is arbitrary, and so is what the node receives, except that a COMMAND
which opens under the key of the node was sealed by the gateway before.
-/

namespace Sonde.System
open Lib Lib.Program Protocol Gateway Engine Node

structure Network (lib : Libraries) (traffic : Traffic) (moves : List Move) (psk : Bytes32) (τ : Type)
    extends Platform τ where
  moment : τ → Nat
  genuine : ∀ timeoutMs world raw world' decoded plaintext, recv timeoutMs world = (.ok (some raw), world') →
    decodeFrame raw = .ok decoded → openFrame lib.provider decoded psk = .ok plaintext →
    decoded.header.msgType = msgCommand →
    ∃ frame ∈ (traffic.run lib.provider (moves.take (moment world'))).state.sealed,
      frame.psk = psk ∧ frame.header = decoded.header ∧ frame.plaintext = plaintext
  forward : ∀ call world, moment world ≤ moment (fails call world).2

def Network.afterwards {lib : Libraries} {traffic : Traffic} {moves : List Move} {psk : Bytes32} {τ : Type}
    (platform : Platform τ)
    (genuine : ∀ timeoutMs world raw world' decoded plaintext, platform.recv timeoutMs world = (.ok (some raw), world') →
      decodeFrame raw = .ok decoded → openFrame lib.provider decoded psk = .ok plaintext →
      decoded.header.msgType = msgCommand →
      ∃ frame ∈ (traffic.run lib.provider moves).state.sealed,
        frame.psk = psk ∧ frame.header = decoded.header ∧ frame.plaintext = plaintext) :
    Network lib traffic moves psk τ where
  toPlatform := platform
  moment _ := moves.length
  genuine := by
    rw [List.take_length]
    exact genuine
  forward _ _ := le_rfl

theorem decodeCommandAsNop_nop {reader : Cbor.Reader} {plaintext : Bytes} {command : Command}
    (decoded : decodeCommandAsNop reader plaintext = .ok command) : command.payload = .nop := by
  unfold decodeCommandAsNop at decoded
  split at decoded
  · cases decoded
  · split at decoded
    · cases decoded
    split at decoded
    · cases decoded
    · cases decoded
      rfl
  · cases decoded

theorem verifyAndDecodeCommand_opens {provider : Provider} {reader : Cbor.Reader} {identity : NodeIdentity}
    {raw : Bytes} {nonce : BitVec 64} {command : Command}
    (verified : verifyAndDecodeCommand provider reader identity raw nonce = .ok command) :
    ∃ decoded plaintext, decodeFrame raw = .ok decoded ∧ openFrame provider decoded identity.psk = .ok plaintext ∧
      decoded.header.msgType = msgCommand ∧
      (command.payload = .nop ∨ GatewayMessage.decode reader msgCommand plaintext =
        .ok (.command command.startingSeq command.timestampMs command.payload command.blob)) := by
  obtain ⟨⟨header, plaintext⟩, opened, rest⟩ := bind_eq_ok.mp verified
  unfold decodeVerifyFrame openReceived at opened
  cases decodes : decodeFrame raw with
  | error e =>
    rw [decodes] at opened
    cases opened
  | ok decoded =>
    rw [decodes] at opened
    dsimp only at opened rest
    cases opens : openFrame provider decoded identity.psk with
    | error e =>
      rw [opens] at opened
      cases opened
    | ok payload =>
      rw [opens] at opened
      cases opened
      split at rest
      · cases rest
      rename_i type
      have isCommand : decoded.header.msgType = msgCommand := not_not.mp type
      split at rest
      · cases rest
      refine ⟨decoded, plaintext, rfl, opens, isCommand, ?_⟩
      rw [isCommand] at rest
      split at rest
      · exact .inl (decodeCommandAsNop_nop rest)
      · cases rest
      · rename_i found
        cases rest
        exact .inr found
      · cases rest

/-! ## From the library to the partition -/

section
variable {lib : Libraries} {g : Gateway} {frames : List (Engine.Inputs × Bytes)} {moves : List Move} {identity : NodeIdentity}
  {τ : Type} (network : Network lib (incoming lib g frames) moves identity.psk τ)

def Backed (command : Command) (world : τ) : Prop :=
  ∀ programHash, Updates command.payload programHash →
    ∃ image, Supplied g moves image ∧
      (incoming lib g frames).Stores lib.provider (moves.take (network.moment world)) programHash image

theorem network_hears (started : JustStarted lib.provider g) (reader : Cbor.Reader) :
    Hears network.toPlatform lib.provider reader identity (Backed network) := by
  rintro nonce raw world world' command received verified programHash ⟨programSize, chunkSize, chunkCount, named⟩
  obtain ⟨decoded, plaintext, decodes, opens, isCommand, decodedCommand⟩ := verifyAndDecodeCommand_opens verified
  obtain ⟨frame, sealed, -, header, rfl⟩ :=
    network.genuine _ world raw world' decoded plaintext received decodes opens isCommand
  have vouched := started.vouched lib frames (moves.take (network.moment world'))
  rcases decodedCommand with nop | command
  · rw [nop] at named
    cases named
  · have proper := (vouched.frames frame sealed).decode (header ▸ isCommand) command
    rw [named] at proper
    obtain ⟨⟨image, supplied, stored⟩, -⟩ := proper
    exact ⟨image, supplied.mono (List.take_prefix _ _), stored⟩

theorem Backed.later {network : Network lib (incoming lib g frames) moves identity.psk τ} (call : Node.StorageCall)
    (command : Command) (world : τ) (backed : Backed network command world) :
    Backed network command (network.fails call world).2 := by
  intro programHash named
  obtain ⟨image, supplied, stores⟩ := backed programHash named
  exact ⟨image, supplied, stores.mono (List.take_prefix_take_left (network.forward call world))⟩

def CollisionFree (provider : Provider) (images : Bytes → Prop) : Prop :=
  ∀ image other, images image → images other → provider.hash image = provider.hash other → image = other

theorem CollisionFree.of_imageHash {provider : Provider} {images : Bytes → Prop} (free : CollisionFree provider images)
    {image other : Bytes} (left : images image) (right : images other)
    (same : imageHash provider image = imageHash provider other) : image = other := by
  refine free image other left right (BitVec.eq_of_toNat_eq ?_)
  have bytes := congrArg ofBigEndian same
  rwa [imageHash, imageHash, ofBigEndian_toBigEndian (provider.hash image).isLt,
    ofBigEndian_toBigEndian (provider.hash other).isLt] at bytes

theorem update_integrity (network : Network lib (incoming lib g frames) moves identity.psk τ)
    (started : JustStarted lib.provider g) (reader : Cbor.Reader) (interpreter : BpfInterpreter (Host τ))
    (space : AddressSpace) (board : BoardLayout) (device after : Device τ) (paired : device.storage.key = some identity)
    (free : CollisionFree lib.provider fun image =>
      Supplied g moves image ∨ after.storage.programs after.storage.activePartition = some image)
    (ended : (runWakeCycle network.toPlatform lib.provider reader interpreter space board device).2 = after)
    (changes : after.storage.activePartition ≠ device.storage.activePartition) : ∃ accepted heard programHash image,
      awaitCommand network.toPlatform lib.provider reader device = (.ok accepted, heard) ∧
      Updates accepted.command.payload programHash ∧ after.storage.programs after.storage.activePartition = some image ∧
      (incoming lib g frames).Stores lib.provider (moves.take (network.moment heard.host.radio.world)) programHash image ∧
      ∀ other, (incoming lib g frames).Stores lib.provider moves programHash other → other = image := by
  obtain ⟨accepted, heard, image, awaited, installed, named⟩ := runWakeCycle_switches ended changes
  have backed : Backed network accepted.command heard.host.radio.world := by
    have met := (awaitCommand_heard (network_hears network started reader) Backed.later).exits device paired
    rw [awaited] at met
    exact met
  obtain ⟨stored, supplied, stores⟩ := backed _ named
  have unique (other : Bytes) (right : (incoming lib g frames).Stores lib.provider moves (hashBytes lib.provider image) other) :
      other = image := by
    obtain ⟨fromInput, hash⟩ := started.stores right
    exact free.of_imageHash (.inl fromInput) (.inr installed) hash
  obtain rfl := unique stored (stores.mono (List.take_prefix _ _))
  exact ⟨accepted, heard, _, stored, awaited, named, installed, stores, unique⟩

end

def suppliedImage : Bytes := imageOf [0x95, 0, 0, 0, 0, 0, 0, 0] []

def suppliedHash : Bytes := imageHash plainProvider suppliedImage

def suppliedRecord : ProgramRecord := ⟨suppliedHash, suppliedImage, suppliedImage.length, .resident, none, none, none⟩

def stockedGateway : Gateway :=
  { smallGateway with
    nodes := (∅ : Table String NodeRecord).insert "n" { smallNode with assignedProgramHash := some suppliedHash }
    programs := fun programHash => if programHash = suppliedHash then some suppliedRecord else none }

def updateWake : List (Engine.Inputs × Bytes) := [(smallInputs, smallFrame 7 (.wake 2 [] 0 firmwareVersion none) 7)]

def updateMoves : List Move := List.replicate 40 (.frame 0)

def updateDownlink : List (Option Bytes) :=
  [gatewayFrame plainProvider 7 (.command 5 1000 (.updateProgram suppliedHash 13 defaultChunkSize 1) none),
    gatewayFrame plainProvider 5 (.chunk 0 suppliedImage)]

def updatePlatform : Platform Script :=
  { scriptedPlatform with
    recv := fun _ script => (.ok ((script.inbox.headD none).filter (some · ∈ updateDownlink)), ⟨[], script.inbox.tail⟩) }

def commandsSealed (raw : Bytes) : Bool :=
  match (decodeFrame raw).toOption with
  | none => true
  | some decoded =>
    decoded.header.msgType ≠ msgCommand ∨
      ((openFrame plainLib.provider decoded smallIdentity.psk).toOption).all fun plaintext =>
        ((incoming plainLib stockedGateway updateWake).run plainLib.provider updateMoves).state.sealed.any fun frame =>
          frame.psk = smallIdentity.psk ∧ frame.header = decoded.header ∧ frame.plaintext = plaintext

theorem updateDownlink_sealed : ∀ raw ∈ updateDownlink, raw.all commandsSealed := by
  decide +kernel

theorem updatePlatform_genuine (timeoutMs : Nat) (script : Script) (raw : Bytes) (script' : Script)
    (decoded : DecodedFrame) (plaintext : Bytes)
    (received : updatePlatform.recv timeoutMs script = (.ok (some raw), script'))
    (decodes : decodeFrame raw = .ok decoded)
    (opens : openFrame plainLib.provider decoded smallIdentity.psk = .ok plaintext)
    (command : decoded.header.msgType = msgCommand) :
    ∃ frame ∈ ((incoming plainLib stockedGateway updateWake).run plainLib.provider updateMoves).state.sealed,
      frame.psk = smallIdentity.psk ∧ frame.header = decoded.header ∧ frame.plaintext = plaintext := by
  have delivered := Except.ok.inj (congrArg Prod.fst received)
  obtain ⟨-, member⟩ := Option.filter_eq_some_iff.mp delivered
  have sealed := updateDownlink_sealed (some raw) (of_decide_eq_true member)
  simp only [Option.all_some, commandsSealed, decodes, Except.toOption, command, opens, ne_eq, not_true, false_or,
    List.any_eq_true, decide_eq_true_eq] at sealed
  exact sealed

def updateNetwork : Network plainLib (incoming plainLib stockedGateway updateWake) updateMoves smallIdentity.psk Script :=
  .afterwards updatePlatform updatePlatform_genuine

def bareDevice : Device Script :=
  let device := smallDevice [] ⟨[], updateDownlink⟩
  { device with storage := { device.storage with programs := fun _ => none } }

def updatedDevice : Device Script :=
  (runWakeCycle updateNetwork.toPlatform plainLib.provider .definite (sondeBpfInterpreter smallSpace true) smallSpace smallBoard
    bareDevice).2

theorem stockedGateway_program {programHash : Bytes} {record : ProgramRecord}
    (found : stockedGateway.programs programHash = some record) :
    programHash = suppliedHash ∧ record = suppliedRecord := by
  rw [show stockedGateway.programs programHash = if programHash = suppliedHash then some suppliedRecord else none from rfl]
    at found
  split at found
  · rename_i same
    exact ⟨same, (Option.some.inj found).symm⟩
  · cases found

theorem stockedGateway_started : JustStarted plainLib.provider stockedGateway where
  library programHash record found := by
    obtain ⟨rfl, rfl⟩ := stockedGateway_program found
    exact ⟨rfl, rfl, by decide⟩
  queues _ command member := by cases member
  sessions _ := rfl
  frames := rfl

theorem updateMoves_supplied {image : Bytes} (supplied : Supplied stockedGateway updateMoves image) :
    image = suppliedImage := by
  rcases supplied with ⟨programHash, record, found, rfl⟩ | ⟨profile, abiVersion, sourceFilename, decoderImage, member⟩
  · obtain ⟨-, rfl⟩ := stockedGateway_program found
    rfl
  · cases List.eq_of_mem_replicate member

theorem updatedDevice_storage : updatedDevice.storage.activePartition = 1 ∧
    updatedDevice.storage.programs updatedDevice.storage.activePartition = some suppliedImage := by
  decide +kernel

theorem update_integrity_stocked : ∃ accepted heard programHash image,
      awaitCommand updateNetwork.toPlatform plainLib.provider .definite bareDevice = (.ok accepted, heard) ∧
      Updates accepted.command.payload programHash ∧
      updatedDevice.storage.programs updatedDevice.storage.activePartition = some image ∧
      (incoming plainLib stockedGateway updateWake).Stores plainLib.provider
        (updateMoves.take (updateNetwork.moment heard.host.radio.world)) programHash image ∧
      ∀ other, (incoming plainLib stockedGateway updateWake).Stores plainLib.provider updateMoves programHash other →
        other = image := by
  obtain ⟨active, installed⟩ := updatedDevice_storage
  refine update_integrity updateNetwork stockedGateway_started .definite (sondeBpfInterpreter smallSpace true) smallSpace
    smallBoard bareDevice updatedDevice rfl ?_ rfl ?_
  · intro image other left right _
    have same {image : Bytes} (known : Supplied stockedGateway updateMoves image ∨
        updatedDevice.storage.programs updatedDevice.storage.activePartition = some image) : image = suppliedImage := by
      rcases known with supplied | found
      · exact updateMoves_supplied supplied
      · exact Option.some.inj (found.symm.trans installed)
    rw [same left, same right]
  · rw [active]
    decide

end Sonde.System
