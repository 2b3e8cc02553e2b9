import Sonde.Gateway.Admin
import Sonde.Gateway.FrameEffects

namespace Sonde.Engine
open Lib Lib.Program Protocol Sonde.Gateway GatewayMessage Function
open Lib.Task (Under)

inductive ProgramError where
  | invalidImage
  | imageTooLarge (size limit : Nat)

def maxResidentSize : Nat := 4096

def imageHash (provider : Provider) (image : Bytes) : Bytes := toBigEndian 32 (provider.hash image).toNat

def sizeLimit : VerificationProfile → Nat
  | .resident => maxResidentSize
  | .ephemeral => maxEphemeralSize

def ingestUnverified (provider : Provider) (image : Bytes) (profile : VerificationProfile) :
    Except ProgramError ProgramRecord :=
  if image = [] then .error .invalidImage
  else
    let size := image.length % 2 ^ 32
    if size > sizeLimit profile then .error (.imageTooLarge size (sizeLimit profile))
    else .ok ⟨imageHash provider image, image, size, profile, none, none, none⟩

structure Listed (provider : Provider) (programHash : Bytes) (record : ProgramRecord) : Prop where
  hash : record.hash = programHash
  image : imageHash provider record.image = programHash
  size : record.size < 2 ^ 32

def Addressed (provider : Provider) (programs : Bytes → Option ProgramRecord) : Prop :=
  ∀ programHash record, programs programHash = some record → Listed provider programHash record

variable {image : Bytes} {record : ProgramRecord} {provider : Provider} {profile : VerificationProfile}

theorem ingestUnverified_listed
    (ingested : ingestUnverified provider image profile = .ok record) : Listed provider record.hash record := by
  unfold ingestUnverified at ingested
  split at ingested
  · cases ingested
  dsimp only at ingested
  split at ingested
  · cases ingested
  · cases ingested
    exact ⟨rfl, rfl, Nat.mod_lt _ (by decide)⟩

theorem ingestUnverified_image (ingested : ingestUnverified provider image profile = .ok record) : record.image = image := by
  unfold ingestUnverified at ingested
  split at ingested
  · cases ingested
  dsimp only at ingested
  split at ingested
  · cases ingested
  · cases ingested
    rfl

variable {programHash : Bytes} {programs : Bytes → Option ProgramRecord} {entry : Option ProgramRecord}

theorem update_found {other : Bytes} (found : update programs programHash entry other = some record) :
    (other = programHash ∧ entry = some record) ∨ programs other = some record := by
  by_cases same : other = programHash
  · subst same
    rw [update_self] at found
    exact .inl ⟨rfl, found⟩
  · rw [update_of_ne same] at found
    exact .inr found

theorem Addressed.update (addressed : Addressed provider programs) (listed : ∀ record, entry = some record → Listed provider programHash record) :
    Addressed provider (update programs programHash entry) := by
  intro other record found
  obtain ⟨rfl, entered⟩ | stored := update_found found
  · exact listed record entered
  · exact addressed other record stored

def Queues (pendingCommands : String → List PendingCommand) : Prop :=
  ∀ nodeId, ∀ command ∈ pendingCommands nodeId, ∀ intervalS, scheduleInterval command = some intervalS → intervalS < 2 ^ 32

inductive Move where
  | frame (index : Nat)
  | administer (action : AdminAction) (queues : Queues action.pendingCommands)
  | ingestProgram (image : Bytes) (profile : VerificationProfile) (abiVersion : Option Nat)
      (sourceFilename : Option String) (decoderImage : Option Bytes)
  | removeProgram (programHash : Bytes)

abbrev Traffic := Task.Pool Gateway Label Discarded Bytes

def Gateway.ingest (provider : Provider) (image : Bytes) (profile : VerificationProfile) (abiVersion : Option Nat)
    (sourceFilename : Option String) (decoderImage : Option Bytes) (g : Gateway) : Gateway :=
  match ingestUnverified provider image profile with
  | .ok record => (storeProgram { record with abiVersion, sourceFilename, decoderImage } g).2
  | .error _ => g

def Traffic.move (provider : Provider) (traffic : Traffic) : Move → Traffic
  | .frame index => traffic.step index
  | .administer action _ =>
    { traffic with state := traffic.state.administer { action with programs := traffic.state.programs } }
  | .ingestProgram image profile abiVersion sourceFilename decoderImage =>
    { traffic with state := traffic.state.ingest provider image profile abiVersion sourceFilename decoderImage }
  | .removeProgram programHash =>
    { traffic with
      state := { traffic.state with programs := update traffic.state.programs programHash none } }

def Traffic.run (provider : Provider) (traffic : Traffic) (moves : List Move) : Traffic := moves.foldl (·.move provider) traffic

def incoming (lib : Libraries) (g : Gateway) (frames : List (Inputs × Bytes)) : Traffic :=
  ⟨g, frames.map fun frame => Concurrent.processFrame lib frame.1 frame.2⟩

variable {g : Gateway} {traffic : Traffic} {known : Bytes → Bytes → Prop}

def Proper (known : Bytes → Bytes → Prop) : CommandPayload → Prop
  | .nop | .reboot => True
  | .updateSchedule intervalS => intervalS < 2 ^ 32
  | .updateProgram programHash programSize chunkSize chunkCount
  | .runEphemeral programHash programSize chunkSize chunkCount =>
    (∃ image, known programHash image) ∧ programHash.length = 32 ∧ programSize < 2 ^ 32 ∧ chunkSize < 2 ^ 32 ∧ chunkCount < 2 ^ 32

def ProperState (known : Bytes → Bytes → Prop) (state : SessionState) : Prop :=
  ∀ programHash programSize chunkSize chunkCount isEphemeral,
    state = .chunkedTransfer programHash programSize chunkSize chunkCount isEphemeral →
      Proper known (.updateProgram programHash programSize chunkSize chunkCount)

def ProperSessions (known : Bytes → Bytes → Prop) (sessions : String → Option Session) : Prop :=
  ∀ nodeId session, sessions nodeId = some session → ProperState known session.state

def Issued (known : Bytes → Bytes → Prop) (plaintext : Bytes) : Prop :=
  ∃ startingSeq timestampMs payload blob,
    plaintext = (command startingSeq timestampMs payload blob).encode ∧ Proper known payload

structure ProperFrame (known : Bytes → Bytes → Prop) (frame : Sealed) : Prop where
  short : frame.plaintext.length ≤ maxPayloadSize
  issued : frame.header.msgType = msgCommand → Issued known frame.plaintext

structure Vouched (provider : Provider) (known : Bytes → Bytes → Prop) (g : Gateway) : Prop where
  library : Addressed provider g.programs
  stored : ∀ programHash record, g.programs programHash = some record → known programHash record.image
  queues : Queues g.pendingCommands
  sessions : ProperSessions known g.sessionManager.sessions
  frames : ∀ frame ∈ g.sealed, ProperFrame known frame

theorem Listed.proper (listed : Listed provider programHash record) (isKnown : known programHash record.image)
    {count : Nat} (counted : chunkCount record.image.length defaultChunkSize = some count) :
    Proper known (.updateProgram record.hash record.size defaultChunkSize count) := by
  have small : count < 2 ^ 32 := by
    unfold chunkCount at counted
    rw [if_neg (by decide)] at counted
    split at counted
    · cases counted
      decide
    dsimp only at counted
    split at counted
    · cases counted
      assumption
    · cases counted
  refine ⟨⟨record.image, listed.hash ▸ isKnown⟩, ?_, listed.size, by decide, small⟩
  rw [listed.hash, ← listed.image]
  simp [imageHash]

variable {payload : CommandPayload}

theorem Proper.fits (proper : Proper known payload) : payload.Fits := by
  cases payload with
  | nop => trivial
  | reboot => trivial
  | updateSchedule intervalS => exact proper
  | updateProgram programHash programSize chunkSize chunkCount =>
    obtain ⟨-, length, rest⟩ := proper
    exact ⟨length ▸ by decide, rest⟩
  | runEphemeral programHash programSize chunkSize chunkCount =>
    obtain ⟨-, length, rest⟩ := proper
    exact ⟨length ▸ by decide, rest⟩

theorem ProperFrame.decode {frame : Sealed} (proper : ProperFrame known frame) (command : frame.header.msgType = msgCommand)
    {reader : Cbor.Reader} {startingSeq timestampMs : BitVec 64} {blob : Option Bytes}
    (decoded : decode reader msgCommand frame.plaintext = .ok (.command startingSeq timestampMs payload blob)) :
    Proper known payload := by
  obtain ⟨seq, time, sent, data, plaintext, named⟩ := proper.issued command
  have short : sent = .nop → ∀ bytes, data = some bytes → bytes.length < 2 ^ 64 := by
    rintro rfl bytes rfl
    have inside := blob_length seq time bytes
    rw [← plaintext] at inside
    exact (inside.trans proper.short).trans_lt (by decide)
  rw [plaintext, decode_command reader named.fits short] at decoded
  cases decoded
  exact named

/-! ## Frames keep it -/

abbrev KeepsVouched {α : Type} (provider : Provider) (known : Bytes → Bytes → Prop) (Q : α → Prop) (t : Steps α) : Prop :=
  t.Keeps (Vouched provider known) Q

variable {sessions : String → Option Session}

theorem ProperSessions.update (proper : ProperSessions known sessions) {nodeId : String} {entry : Option Session}
    (entered : ∀ session, entry = some session → ProperState known session.state) :
    ProperSessions known (update sessions nodeId entry) := by
  intro other session found
  by_cases same : other = nodeId
  · subst same
    rw [update_self] at found
    exact entered session found
  · rw [update_of_ne same] at found
    exact proper other session found

theorem Vouched.vouches : Vouches (Vouched provider known) (Proper known) where
  nop := trivial
  reboot := trivial
  queued g nodeId command intervalS vouched member := vouched.queues nodeId command member intervalS
  stored g programHash program count vouched found counted := by
    have proper := (vouched.library _ _ found).proper (vouched.stored _ _ found) counted
    exact ⟨proper, proper⟩
  sessions g nodeId session vouched found command entered := by
    have proper := vouched.sessions nodeId session found
    cases command with
    | updateProgram programHash programSize chunkSize chunkCount => exact proper _ _ _ _ _ (Option.some.inj entered).symm
    | runEphemeral programHash programSize chunkSize chunkCount => exact proper _ _ _ _ _ (Option.some.inj entered).symm
    | _ => cases entered

theorem Transfers.proper {state : SessionState} (transfers : Transfers (Proper known) state) : ProperState known state := by
  rintro programHash programSize chunkSize chunkCount isEphemeral rfl
  cases isEphemeral with
  | true => exact transfers (.runEphemeral programHash programSize chunkSize chunkCount) rfl
  | false => exact transfers (.updateProgram programHash programSize chunkSize chunkCount) rfl

theorem Effect.vouched {R : Prop} {holder : Option String} {access : Access} {g' : Gateway}
    (effect : Effect R (Proper known) holder g access g') (vouched : Vouched provider known g) :
    Vouched provider known g' := by
  cases effect with
  | aside same =>
    simp only [Gateway.served, Prod.mk.injEq] at same
    obtain ⟨-, programs, sessions, queues, -, frames⟩ := same
    exact ⟨programs ▸ vouched.library, programs ▸ vouched.stored, queues ▸ vouched.queues, sessions ▸ vouched.sessions,
      frames ▸ vouched.frames⟩
  | queue fewer => exact { vouched with queues := fun nodeId command member => vouched.queues nodeId command (fewer _ member) }
  | session held same states =>
    refine { vouched with sessions := ?_ }
    rw [same]
    refine .update vouched.sessions fun session entered => ?_
    rcases states session entered with transfers | ⟨before, found, state⟩
    · exact transfers.proper
    · exact state ▸ vouched.sessions _ before found
  | record => exact { vouched with }
  | reply => exact { vouched with }
  | sealing short commands =>
    refine { vouched with frames := fun frame member => ?_ }
    rcases List.mem_cons.mp member with rfl | older
    · exact ⟨short, commands⟩
    · exact vouched.frames frame older

theorem follows_keeps {α : Type} {Q : α → Prop} {holder : Option String} {t : Steps α}
    (follows : Follows True (Vouched provider known) (Proper known) holder Q t) :
    KeepsVouched provider known (fun _ => True) t :=
  .mono follows (fun _ vouched => vouched) (fun _ _ _ vouched step => step.2.vouched vouched) fun _ _ => trivial

theorem authenticateNode_keeps {lib : Libraries} {inputs : Inputs} {decoded : DecodedFrame} :
    KeepsVouched provider known (fun _ => True) (Concurrent.authenticateNode lib inputs decoded) := by
  have candidates : Follows True (Vouched provider known) (Proper known) none (fun _ => True)
      (Concurrent.call none (do
        guardFault inputs .nodesByKeyHint
        .read (nodesByKeyHint decoded.header.keyHint))) :=
    aside_follows (.bind (guardFault_fixes _ _) fun _ => .read _)
  refine .bind (follows_keeps candidates) fun candidates _ => .ite (fun _ => ?_) fun _ => ?_
  · exact .mono (Concurrent.tryRecoveryAuth_follows (R := True)) (fun _ vouched => vouched)
      (fun _ _ _ vouched step => step.vouched vouched) fun _ _ => trivial
  · exact orDiscard_under.mono (fun _ vouched => vouched) (fun _ _ _ _ kept => kept) fun _ _ => trivial

theorem processFrame_keeps (lib : Libraries) (inputs : Inputs) (raw : Bytes) :
    KeepsVouched provider known (fun _ => True) (Concurrent.processFrame lib inputs raw) := by
  refine .bind orDiscard_under fun decoded _ =>
    .ite (fun _ => follows_keeps Concurrent.handlePeerRequest_follows) fun _ =>
    .ite (fun _ => follows_keeps Concurrent.handleDiagRequest_follows) fun _ =>
    .bind authenticateNode_keeps fun authentic _ => .ite (fun _ => ?_) fun _ => .ite (fun _ => ?_) fun _ =>
    .stop
  · exact follows_keeps (Concurrent.handleWake_follows Vouched.vouches)
  · exact follows_keeps Concurrent.handlePostWake_follows

/-! ## Runs -/

structure Working (provider : Provider) (known : Bytes → Bytes → Prop) (traffic : Traffic) : Prop where
  state : Vouched provider known traffic.state
  tasks : ∀ task ∈ traffic.tasks, KeepsVouched provider known (fun _ => True) task

theorem ProperSessions.close (proper : ProperSessions known sessions)
    (closes : String → Bool) : ProperSessions known fun nodeId => if closes nodeId then none else sessions nodeId := by
  intro nodeId session found
  dsimp only at found
  split at found
  · cases found
  · exact proper nodeId session found

theorem Gateway.ingest_vouched (vouched : Vouched provider known g) (image : Bytes) (profile : VerificationProfile)
    (abiVersion : Option Nat) (sourceFilename : Option String) (decoderImage : Option Bytes)
    (ingests : ∀ record, ingestUnverified provider image profile = .ok record → known record.hash record.image) :
    Vouched provider known (g.ingest provider image profile abiVersion sourceFilename decoderImage) := by
  unfold Gateway.ingest
  cases ingested : ingestUnverified provider image profile with
  | error e => exact vouched
  | ok record =>
    have listed := ingestUnverified_listed ingested
    refine ⟨vouched.library.update ?_, ?_, vouched.queues, vouched.sessions, vouched.frames⟩
    · rintro _ ⟨⟩
      exact ⟨rfl, listed.image, listed.size⟩
    · intro programHash stored found
      obtain ⟨rfl, entered⟩ | earlier := update_found found
      · cases entered
        exact ingests record ingested
      · exact vouched.stored programHash stored earlier

theorem Gateway.remove_vouched (vouched : Vouched provider known g) (programHash : Bytes) :
    Vouched provider known { g with programs := update g.programs programHash none } := by
  refine ⟨vouched.library.update (by rintro _ ⟨⟩), fun other record found => ?_, vouched.queues, vouched.sessions,
    vouched.frames⟩
  obtain ⟨-, entered⟩ | earlier := update_found found
  · cases entered
  · exact vouched.stored other record earlier

def Move.Ingests (provider : Provider) (move : Move) (record : ProgramRecord) : Prop :=
  ∃ image profile abiVersion sourceFilename decoderImage,
    move = .ingestProgram image profile abiVersion sourceFilename decoderImage ∧
      ingestUnverified provider image profile = .ok record

theorem Working.move (working : Working provider known traffic) (move : Move)
    (ingests : ∀ record, move.Ingests provider record → known record.hash record.image) :
    Working provider known (traffic.move provider move) := by
  have vouched := working.state
  cases move with
  | frame index =>
    obtain ⟨state, tasks⟩ := Task.Pool.step_keeps working.tasks vouched index
    exact ⟨state, tasks⟩
  | administer action queues =>
    exact ⟨⟨vouched.library, vouched.stored, queues, vouched.sessions.close action.closes, vouched.frames⟩, working.tasks⟩
  | ingestProgram image profile abiVersion sourceFilename decoderImage =>
    refine ⟨Gateway.ingest_vouched vouched image profile abiVersion sourceFilename decoderImage fun record ingested => ?_,
      working.tasks⟩
    exact ingests record ⟨image, profile, abiVersion, sourceFilename, decoderImage, rfl, ingested⟩
  | removeProgram programHash => exact ⟨Gateway.remove_vouched vouched programHash, working.tasks⟩

theorem Working.run (working : Working provider known traffic) {reached : List Move}
    (ingests : ∀ earlier move record, earlier ++ [move] <+: reached → move.Ingests provider record →
      known record.hash record.image) : Working provider known (traffic.run provider reached) := by
  induction reached generalizing traffic with
  | nil => exact working
  | cons move rest ih =>
    refine ih (working.move move fun record => ingests [] move record ⟨rest, rfl⟩) fun earlier later record inside => ?_
    exact ingests (move :: earlier) later record (List.cons_prefix_cons.mpr ⟨rfl, inside⟩)

structure JustStarted (provider : Provider) (g : Gateway) : Prop where
  library : Addressed provider g.programs
  queues : Queues g.pendingCommands
  sessions : ∀ nodeId, g.sessionManager.sessions nodeId = none
  frames : g.sealed = []

def Supplied (g : Gateway) (moves : List Move) (image : Bytes) : Prop :=
  (∃ programHash record, g.programs programHash = some record ∧ record.image = image) ∨
    ∃ profile abiVersion sourceFilename decoderImage,
      .ingestProgram image profile abiVersion sourceFilename decoderImage ∈ moves

def Traffic.Stores (provider : Provider) (traffic : Traffic) (moves : List Move) (programHash image : Bytes) : Prop :=
  ∃ reached record, reached <+: moves ∧ (traffic.run provider reached).state.programs programHash = some record ∧
    record.image = image

variable {moves : List Move} {earlier : List Move}

theorem Supplied.mono (supplied : Supplied g earlier image) (start : earlier <+: moves) : Supplied g moves image := by
  rcases supplied with initial | ⟨profile, abiVersion, sourceFilename, decoderImage, member⟩
  · exact .inl initial
  · exact .inr ⟨profile, abiVersion, sourceFilename, decoderImage, start.subset member⟩

theorem Traffic.Stores.mono (stores : traffic.Stores provider earlier programHash image)
    (start : earlier <+: moves) : traffic.Stores provider moves programHash image := by
  obtain ⟨reached, record, inside, found, same⟩ := stores
  exact ⟨reached, record, inside.trans start, found, same⟩

theorem Traffic.run_append (provider : Provider) (traffic : Traffic) (earlier : List Move) (move : Move) :
    traffic.run provider (earlier ++ [move]) = (traffic.run provider earlier).move provider move := by
  simp [Traffic.run, List.foldl_append]

theorem JustStarted.vouched (fresh : JustStarted provider g) (lib : Libraries) (frames : List (Inputs × Bytes))
    (moves : List Move) : Vouched provider (fun programHash image => Supplied g moves image ∧
      (incoming lib g frames).Stores provider moves programHash image)
      ((incoming lib g frames).run provider moves).state := by
  refine (Working.run ⟨⟨fresh.library, fun programHash record found => ?_, fresh.queues, fun nodeId session found => ?_,
    fun frame member => ?_⟩, fun task member => ?_⟩ ?_).state
  · exact ⟨.inl ⟨programHash, record, found, rfl⟩, [], record, List.nil_prefix, found, rfl⟩
  · exact absurd (found.symm.trans (fresh.sessions nodeId)) (by simp)
  · rw [show (incoming lib g frames).state.sealed = [] from fresh.frames] at member
    cases member
  · obtain ⟨frame, -, rfl⟩ := List.mem_map.mp member
    exact processFrame_keeps lib frame.1 frame.2
  · rintro earlier _ record inside ⟨image, profile, abiVersion, sourceFilename, decoderImage, rfl, ingested⟩
    have member := inside.subset (List.mem_append_right earlier (List.mem_singleton_self _))
    rw [← ingestUnverified_image ingested] at member
    refine ⟨.inr ⟨profile, abiVersion, sourceFilename, decoderImage, member⟩, _,
      { record with abiVersion, sourceFilename := normalizeDisplayFilename sourceFilename, decoderImage }, inside, ?_, rfl⟩
    rw [Traffic.run_append]
    simp only [Traffic.move, Gateway.ingest, ingested, storeProgram, update_run, update_self]

theorem JustStarted.stores {lib : Libraries} (fresh : JustStarted lib.provider g) {frames : List (Inputs × Bytes)}
    (stores : (incoming lib g frames).Stores lib.provider moves programHash image) :
    Supplied g moves image ∧ imageHash lib.provider image = programHash := by
  obtain ⟨reached, record, start, found, rfl⟩ := stores
  have vouched := fresh.vouched lib frames reached
  exact ⟨(vouched.stored programHash record found).1.mono start, (vouched.library programHash record found).image⟩

end Sonde.Engine
