import Sonde.Node.Installation
import Sonde.Node.Transmissions

/-!
# Nonces of one wake cycle

`current_seq` advances when the transport has taken a frame. A frame that it refuses leaves its number to the next one,
so that no nonce is used for two payloads exactly when the next frame repeats the refused payload.
-/

namespace Sonde.Node
open Lib Lib.Program Protocol List

variable {τ : Type}

def Passed.msgType (frame : Passed) : BitVec 8 := frame.header.msgType

def sessionTypes : List (BitVec 8) := [msgGetChunk, msgProgramAck, msgAppData]

def Peers (passed : List Passed) : Prop := passed.length ≤ 1 ∧ ∀ frame ∈ passed, frame.msgType = msgPeerRequest

def Opened (header : FrameHeader) (payload : Bytes) (passed : List Passed) : Prop :=
  ∃ wakes peers, passed = wakes ++ peers ∧ Peers peers ∧ ∀ frame ∈ wakes, frame.header = header ∧ frame.payload = payload

def Opening (passed : List Passed) : Prop := ∃ header payload, header.msgType = msgWake ∧ Opened header payload passed

def accepted (frames : List Passed) : Nat := frames.countP (·.accepted)

structure Follows (start : BitVec 64) (frame : Passed) (older : List Passed) : Prop where
  nonce : frame.header.nonce = start + BitVec.ofNat 64 (accepted older)
  sessional : frame.msgType ∈ sessionTypes
  afterRefusal : ∀ f ∈ older, f.accepted = false → f.msgType = msgAppData ∧ frame.msgType = msgAppData

def Numbered (start : BitVec 64) : List Passed → Prop
  | [] => True
  | frame :: older => Follows start frame older ∧ Numbered start older

def InSession (Q : Passed → Prop) (opening : List Passed) (log : Log) : Prop :=
  ∃ start session, log.startingSeq = some start ∧ log.passed = session ++ opening ∧ Numbered start session ∧
    log.currentSeq = start + BitVec.ofNat 64 (accepted session) ∧ ∀ frame ∈ session, Q frame

def Refusable (frame : Passed) : Prop := frame.accepted = false → frame.msgType = msgAppData

def Taken (frame : Passed) : Prop := frame.accepted = true

variable {frame : Passed}

theorem Taken.refusable (taken : Taken frame) : Refusable frame := by
  intro refused
  rw [Taken, refused] at taken
  cases taken

def Complete (log : Log) : Prop :=
  (log.startingSeq = none ∧ Opening log.passed) ∨ ∃ opening, Opening opening ∧ InSession (fun _ => True) opening log

variable {opening : List Passed} {log : Log}

theorem InSession.mono {P Q : Passed → Prop} (h : InSession P opening log)
    (imp : ∀ frame, P frame → Q frame) : InSession Q opening log := by
  obtain ⟨start, session, started, split, numbered, current, all⟩ := h
  exact ⟨start, session, started, split, numbered, current, fun frame member => imp frame (all frame member)⟩

theorem InSession.add {P Q : Passed → Prop} {identity : NodeIdentity} {message : NodeMessage} {taken : Bool}
    (h : InSession P opening log) (sessional : message.msgType ∈ sessionTypes)
    (afterRefusal : ∀ f, P f → f.accepted = false → f.msgType = msgAppData ∧ message.msgType = msgAppData)
    (older : ∀ f, P f → Q f) (newest : ∀ f : Passed, f.msgType = message.msgType → f.accepted = taken → Q f) :
    InSession Q opening (log.add identity message taken) := by
  obtain ⟨start, session, started, split, numbered, current, all⟩ := h
  let frame : Passed := ⟨⟨identity.keyHint, message.msgType, log.currentSeq⟩, message.encode, taken⟩
  refine ⟨start, frame :: session, started, ?_, ⟨⟨current, sessional, ?_⟩, numbered⟩, ?_, ?_⟩
  · simp [Log.add, split, frame]
  · exact fun f member refused => afterRefusal f (all f member) refused
  · cases taken with
    | false => simpa [Log.add, accepted, frame] using current
    | true => simp [Log.add, accepted, frame, current, BitVec.ofNat_add, BitVec.add_assoc]
  · intro f member
    rcases mem_cons.mp member with rfl | member
    · exact newest _ rfl rfl
    · exact older f (all f member)

variable {link : Link τ} {provider : Provider} {reader : Cbor.Reader} {identity : NodeIdentity}

theorem refusable_add (blob : Bytes) (taken : Bool) (h : InSession Refusable opening log) :
    InSession Refusable opening (log.add identity (.appData blob) taken) :=
  h.add (by simp [NodeMessage.msgType, sessionTypes]) (fun _ refusable refused => ⟨refusable refused, rfl⟩)
    (fun _ h => h) fun _ same _ _ => same

abbrev Transfers {α : Type} (opening : List Passed) (exchange : Exchange τ α) : Prop :=
  Continues (InSession Taken opening) (InSession (fun _ => True) opening) exchange

theorem sendTransferMessage_continues {message : NodeMessage} (sessional : message.msgType ∈ sessionTypes) :
    Transfers opening (sendInSequence link provider identity message) := by
  have none_refused (f : Passed) (taken : Taken f) (refused : f.accepted = false) :
      f.msgType = msgAppData ∧ message.msgType = msgAppData := by
    rw [Taken, refused] at taken
    cases taken
  apply sendInSequence_meets
  · exact fun log h => h.add sessional none_refused (fun _ h => h) fun _ _ taken => taken
  · exact fun log h => h.add sessional none_refused (fun _ _ => trivial) fun _ _ _ => trivial
  · exact fun log h => h.mono fun _ _ => trivial

theorem sendProgramAck_continues (programHash : Bytes) :
    Transfers opening (sendProgramAck link provider identity programHash) :=
  .bind (sendTransferMessage_continues (by simp [NodeMessage.msgType, sessionTypes])) fun _ => .pure fun _ h => h

theorem taken_weakens (log : Log) (h : InSession Taken opening log) : InSession (fun _ => True) opening log :=
  h.mono fun _ _ => trivial

theorem chunkAttempts_continues (chunkIndex left : Nat) :
    Transfers opening (chunkAttempts link provider reader identity chunkIndex left) := by
  induction left with
  | zero => exact continues_of_silent (.stop _) taken_weakens
  | succ left ih =>
    refine .bind (continues_of_silent (.onlyIf (delayMs_silent _)) taken_weakens) fun _ => ?_
    refine .bind (sendTransferMessage_continues (by simp [NodeMessage.msgType, sessionTypes])) fun seq => ?_
    refine .bind (continues_of_silent elapsedMs_silent taken_weakens) fun now => ?_
    refine .bind (continues_of_silent (awaitChunk_silent _ _ _ _) taken_weakens) fun response => ?_
    cases response with
    | none => exact ih
    | some data => exact .pure fun _ h => h

theorem receiveChunks_continues (programSize chunkSize ci : Nat) (image : Bytes) (left : Nat) : Transfers opening
      (receiveChunks link provider reader identity programSize chunkSize ci image left) := by
  induction left generalizing ci image with
  | zero => exact continues_of_silent (.ite (.stop _) (.pure _)) taken_weakens
  | succ left ih =>
    refine .bind (chunkAttempts_continues ci _) fun data => ?_
    split
    · exact continues_of_silent (.stop _) taken_weakens
    split
    · exact continues_of_silent (.stop _) taken_weakens
    · exact ih (ci + 1) (image ++ data)

theorem chunkedTransfer_continues (programSize chunkSize count maxImageSize : Nat) : Transfers opening
      (chunkedTransfer link provider reader identity programSize chunkSize count maxImageSize) := by
  unfold chunkedTransfer
  split
  · exact continues_of_silent (.stop _) taken_weakens
  split
  · exact continues_of_silent (.stop _) taken_weakens
  split
  · exact continues_of_silent (.stop _) taken_weakens
  · exact receiveChunks_continues _ _ _ _ _

def Waking (header : FrameHeader) (payload : Bytes) (log : Log) : Prop :=
  log.startingSeq = none ∧ Opened header payload log.passed

theorem Waking.wake {header : FrameHeader} {payload : Bytes} (h : Waking header payload log) (taken : Bool) :
    Waking header payload { log with passed := ⟨header, payload, taken⟩ :: log.passed } := by
  obtain ⟨unstarted, wakes, peers, split, one, same⟩ := h
  refine ⟨unstarted, ⟨header, payload, taken⟩ :: wakes, peers, by simp [split], one, ?_⟩
  intro frame member
  rcases mem_cons.mp member with rfl | member
  · exact ⟨rfl, rfl⟩
  · exact same frame member

theorem wakeAttempts_continues (nonce : BitVec 64) (payload : Bytes) (left : Nat) :
    Continues (Waking ⟨identity.keyHint, msgWake, nonce⟩ payload) (Waking ⟨identity.keyHint, msgWake, nonce⟩ payload)
      (wakeAttempts link provider reader identity nonce payload left) := by
  induction left with
  | zero => exact continues_of_silent (.stop _) fun _ h => h
  | succ left ih =>
    refine .bind (continues_of_silent (.onlyIf (delayMs_silent _)) fun _ h => h) fun _ => ?_
    refine .bind (sendFrame_meets (fun _ h => h.wake true) (fun _ h => h.wake false) fun _ h => h) fun _ => ?_
    refine .bind (continues_of_silent (receive_silent _) fun _ h => h) fun response => ?_
    cases response with
    | none => exact ih
    | some raw =>
      dsimp only
      cases verifyAndDecodeCommand provider reader identity raw nonce with
      | ok command => exact .pure fun _ h => h
      | error e => exact ih

def Unsent (log : Log) : Prop := log.startingSeq = none ∧ log.passed = []

def Peered (log : Log) : Prop := log.startingSeq = none ∧ Peers log.passed

theorem Unsent.peered (h : Unsent log) : Peered log := by
  obtain ⟨unstarted, empty⟩ := h
  exact ⟨unstarted, by simp [empty], by simp [empty]⟩

theorem buildPeerRequestFrame_msgType {completeFrame : Bytes} {decoded : DecodedFrame}
    (built : buildPeerRequestFrame completeFrame = .ok decoded) : decoded.header.msgType = msgPeerRequest := by
  unfold buildPeerRequestFrame at built
  split at built
  · cases built
  · split at built
    · cases built
    · rename_i is
      cases built
      simpa using is

theorem peerRequestExchange_meets (completeFrame : Bytes) :
    Meets (fun radio => Unsent radio.log) (peerRequestExchange link provider reader identity completeFrame)
      (fun _ radio => Peered radio.log) fun radio => Peered radio.log := by
  refine .checked (fun _ h => h.peered) fun decoded built => ?_
  have sent : Meets (fun radio : Radio τ => Unsent radio.log)
      (transmit link decoded.header decoded.ciphertextAndTag completeFrame) (fun _ radio => Peered radio.log)
      fun radio => Peered radio.log := by
    refine ⟨?_⟩
    rintro radio ⟨unstarted, empty⟩
    have peer := buildPeerRequestFrame_msgType built
    have one (taken : Bool) : Peered ⟨radio.startingSeq, radio.currentSeq,
        ⟨decoded.header, decoded.ciphertextAndTag, taken⟩ :: radio.passed⟩ := by
      have empty' : radio.passed = [] := empty
      refine ⟨unstarted, by simp [empty'], ?_⟩
      simpa [empty', Passed.msgType] using peer
    cases answer : link.send completeFrame radio.world with
    | mk result world =>
      simp only [transmit, answer]
      cases result with
      | ok _ => exact one true
      | error e => exact one false
  refine .bind sent fun _ => ?_
  refine .bind (continues_of_silent elapsedMs_silent fun _ h => h) fun startMs => ?_
  exact continues_of_silent (awaitPeerAck_silent _ _ _) fun _ h => h

/-! ## The cycle -/

variable {platform : Platform τ} {interpreter : BpfInterpreter (Host τ)} {space : AddressSpace} {board : BoardLayout}
    {ε α : Type}

theorem Peered.opened (h : Peered log) (header : FrameHeader) (payload : Bytes) : Opened header payload log.passed :=
  ⟨[], log.passed, rfl, h.2, by simp⟩

theorem Peered.complete (h : Peered log) : Complete log := .inl ⟨h.1, ⟨0, msgWake, 0⟩, [], rfl, h.opened _ _⟩

theorem registerPeer_meets : Logs Unsent (registerPeer platform provider reader identity) Peered Complete := by
  refine .bind (ends_quietly storedRequest_quiet fun _ h => h.peered.complete) fun request => ?_
  cases request with
  | none => exact .pure fun _ h => h.peered
  | some completeFrame =>
    refine ⟨fun device unsent => ?_⟩
    have peered : Peered (peerRequestExchange platform.toLink provider reader identity completeFrame device.host.radio).2.log :=
      (peerRequestExchange_meets completeFrame).ends unsent
    rw [← relayRequest_log] at peered
    dsimp only
    split
    · rename_i run
      rwa [run] at peered
    · rename_i run
      rw [run] at peered
      exact peered.complete

def Unopened (log : Log) : Prop := log.startingSeq = none ∧ Opening log.passed

theorem offerWake_opens (programHash : Bytes) :
    Logs Peered (offerWake platform provider reader identity programHash) Unopened Complete := by
  refine .bind (ends_quietly (ask_quiet _) fun _ h => h.complete) fun nonce => ?_
  refine .bind (ends_quietly (.read _) fun _ h => h.complete) fun batteryMv => ?_
  refine .bind (ends_quietly (.read _) fun _ h => h.complete) fun queue => ?_
  set wakeBlob := piggyback queue programHash batteryMv
  let waking := Waking ⟨identity.keyHint, msgWake, nonce⟩ (wakeMessage programHash batteryMv wakeBlob).encode
  have exchange : Logs Peered
      (onRadio (wakeCommandExchange platform.toLink provider reader identity nonce programHash batteryMv wakeBlob))
      waking waking :=
    .prior (Meets.onRadio (wakeAttempts_continues nonce _ _)) (fun _ h => ⟨h.1, h.opened _ _⟩)
  exact .bind (.uniform exchange) fun result => .pure fun _ h => ⟨h.1, _, _, rfl, h.2⟩

theorem exchangeWake_meets (programHash : Bytes) :
    Logs Peered (exchangeWake platform provider reader identity programHash) Unopened Complete := by
  exact .bind (offerWake_opens programHash) fun offered =>
    ends_silently ((settleWake_unsent offered.1 offered.2).comp Prod.snd) fun _ => .inl

theorem acceptCommand_meets (command : Command) :
    Meets (fun device : Device τ => Unopened device.log) (acceptCommand space command)
      (fun _ device => ∃ opening, Opening opening ∧ InSession Taken opening device.log) fun device => Complete device.log := by
  refine .update ?_
  rintro device ⟨_, opening⟩
  exact ⟨_, opening, command.startingSeq, [], rfl, rfl, trivial, by simp [accepted, Device.log, Radio.log], by simp⟩

theorem sendPending_meets (blobs : AsyncQueue) :
    Logs (InSession Refusable opening) (sendPending platform provider identity blobs) (InSession Refusable opening)
      (InSession Refusable opening) := by
  induction blobs with
  | nil => exact .pure fun _ h => h
  | cons blob blobs ih => exact .bind (Meets.onRadio (sendAppData_continues fun _ _ => refusable_add blob _)) fun _ => ih

theorem drainQueue_meets :
    Logs (InSession Taken opening) (drainQueue platform provider identity) (InSession Refusable opening)
      (InSession (fun _ => True) opening) := by
  refine .bind (ends_quietly (.read _) taken_weakens) fun pending => ?_
  refine .bind (ends_silently (setQueue_log _) taken_weakens) fun _ => ?_
  have sent : Logs (InSession Taken opening) (sendPending platform provider identity pending)
      (InSession Refusable opening) (InSession Refusable opening) :=
    .prior (sendPending_meets pending) (fun _ h => h.mono fun _ => Taken.refusable)
  exact .bind (.uniform sent) fun _ => .pure fun _ h => h

theorem fetchProgram_meets (isEphemeral : Bool) (expectedHash : Bytes) (programSize chunkSize chunkCount budget : Nat) :
    Logs (InSession Taken opening)
      (fetchProgram platform provider reader identity isEphemeral expectedHash programSize chunkSize chunkCount budget)
      (InSession Taken opening) (InSession (fun _ => True) opening) := by
  refine .bind (Meets.onRadio (chunkedTransfer_continues _ _ _ _)) fun image => ?_
  have loaded : Fixes Device.log (loadOrInstall platform provider reader isEphemeral image expectedHash budget) :=
    .ite (.ofExcept _) ((installResident_spares _ _ _).comp Prod.snd)
  refine .bind (ends_silently loaded taken_weakens) fun program => ?_
  exact .bind (Meets.onRadio (sendProgramAck_continues _)) fun _ => .pure fun _ h => h

theorem transferProgram_meets (isEphemeral : Bool) (expectedHash : Bytes) (programSize chunkSize chunkCount : Nat) :
    Logs (InSession Taken opening)
      (transferProgram platform provider reader board identity isEphemeral expectedHash programSize chunkSize chunkCount)
      (InSession Taken opening) (InSession (fun _ => True) opening) := by
  refine .bind (ends_silently (setQueue_log _) taken_weakens) fun _ => ?_
  refine .bind (ends_quietly (.read _) taken_weakens) fun budget => ?_
  refine .bind (.early (.attempt (fetchProgram_meets _ _ _ _ _ _)) fun _ h => h.elim) fun result => ?_
  cases result with
  | error e => exact captureBatteryThenSleep_sleeps (P := fun core => InSession (fun _ => True) opening core.2.1)
  | ok program =>
    exact .bind (ends_quietly (.onlyIf (setSleepMgr_quiet _)) taken_weakens) fun _ => .pure fun _ h => h

theorem dispatchCommand_meets (command : CommandPayload) :
    Logs (InSession Taken opening) (dispatchCommand platform provider reader board identity command)
      (InSession Refusable opening) (InSession (fun _ => True) opening) := by
  cases command with
  | nop => exact .bind drainQueue_meets fun _ => .pure fun _ h => h
  | reboot => exact .stop fun _ h => taken_weakens _ h
  | updateSchedule intervalS =>
    have written : Logs (InSession Taken opening) (writeScheduleInterval platform intervalS) (InSession Taken opening)
        (InSession Taken opening) :=
      Fixes.meets (writeStorage_fixes (ask_quiet _).log fun _ => rfl)
    refine .bind (.uniform written) fun result => ?_
    refine .bind (ends_quietly (.onlyIf (setSleepMgr_quiet _)) taken_weakens) fun _ => ?_
    exact .pure fun _ h => h.mono fun _ => Taken.refusable
  | updateProgram | runEphemeral =>
    refine .bind (transferProgram_meets _ _ _ _ _) fun program => ?_
    exact .pure fun _ h => h.mono fun _ => Taken.refusable

theorem lasting_refusable : Lasting identity fun log _ => InSession Refusable opening log where
  sends _ _ blob taken := refusable_add blob taken
  queues _ _ _ h := h

theorem cycle_meets : Logs Unsent (cycle platform provider reader interpreter space board) Complete Complete := by
  unfold cycle awaitCommand
  refine .bind (Q := fun _ device => Unopened device.log) ?_ fun accepted => ?_
  · refine .bind ?_ fun prepared => .bind (exchangeWake_meets prepared.2.1) fun command => .pure fun _ h => h
    refine .bind (ends_quietly startCycle_quiet fun _ h => h.peered.complete) fun identity => ?_
    refine .bind registerPeer_meets fun _ => ?_
    exact .bind (ends_quietly loadActiveRaw_quiet fun _ h => h.complete) fun resident => .pure fun _ h => h
  refine .bind (acceptCommand_meets accepted.command) fun _ => .of_exists fun opening opens => ?_
  have complete {Q : Passed → Prop} (log : Log) (h : InSession Q opening log) : Complete log :=
    .inr ⟨opening, opens, h.mono fun _ _ => trivial⟩
  refine .bind (ends_quietly (ask_quiet _) complete) fun receivedAt => ?_
  refine .bind (.early (dispatchCommand_meets accepted.command.payload) fun _ h => complete _ h) fun installed => ?_
  exact .conseq (executeAndSleep_meets lasting_refusable _ _ _ _) (fun _ h => h) (fun _ _ h => complete _ h) fun _ h => complete _ h

theorem runWakeCycle_complete (device : Device τ) :
    Complete (runWakeCycle platform provider reader interpreter space board (device.boot space.mapBacking)).2.log := by
  rw [runWakeCycle_device]
  exact cycle_meets.ends ⟨rfl, rfl⟩

/-! ## Reuse -/

def NoReuse (passed : List Passed) : Prop :=
  ∀ a ∈ passed, ∀ b ∈ passed, a.msgType = b.msgType → a.header.nonce = b.header.nonce → a.payload = b.payload

instance (passed : List Passed) : Decidable (NoReuse passed) :=
  inferInstanceAs (Decidable (∀ a ∈ passed, ∀ b ∈ passed, _ → _ → _))

def Resent (passed : List Passed) : Prop :=
  passed.IsChain fun newer older => older.msgType = msgAppData → older.accepted = false → newer.payload = older.payload

instance (passed : List Passed) : Decidable (Resent passed) := inferInstanceAs (Decidable (IsChain _ passed))

variable {passed : List Passed}

theorem Opening.msgType (h : Opening passed) (member : frame ∈ passed) : frame.msgType ∉ sessionTypes := by
  obtain ⟨header, payload, wake, wakes, peers, rfl, ⟨_, peer⟩, same⟩ := h
  rcases mem_append.mp member with inWakes | inPeers
  · rw [Passed.msgType, (same frame inWakes).1, wake]
    decide
  · rw [peer frame inPeers]
    decide

theorem Opening.noReuse (h : Opening passed) : NoReuse passed := by
  obtain ⟨header, payload, wake, wakes, peers, rfl, ⟨one, peer⟩, same⟩ := h
  have isWake {frame : Passed} (member : frame ∈ wakes) : frame.msgType = msgWake := by
    rw [Passed.msgType, (same frame member).1, wake]
  intro a inA b inB type _
  rcases mem_append.mp inA with a1 | a2 <;> rcases mem_append.mp inB with b1 | b2
  · rw [(same a a1).2, (same b b1).2]
  · rw [isWake a1, peer b b2] at type
    exact absurd type (by decide)
  · rw [peer a a2, isWake b1] at type
    exact absurd type (by decide)
  · -- Two members of a list of one frame at most.
    match peers, one with
    | [only], _ => rw [mem_singleton.mp a2, mem_singleton.mp b2]

theorem resent_iff : Resent passed ↔ ∀ ⦃newer older after before⦄, passed = after ++ newer :: older :: before →
      older.msgType = msgAppData → older.accepted = false → newer.payload = older.payload :=
  isChain_iff_forall_rel_of_append_cons_cons

theorem Opening.resent (h : Opening passed) : Resent passed := by
  refine resent_iff.mpr ?_
  rintro newer older after before rfl app _
  exact absurd (by simp [app, sessionTypes]) (h.msgType (mem_append_right after (mem_cons_of_mem newer mem_cons_self)))

theorem accepted_tail (frames : List Passed) : accepted frames.tail ≤ accepted frames := by
  cases frames with
  | nil => exact le_rfl
  | cons frame rest =>
    simp only [tail_cons, accepted, countP_cons]
    omega

variable {start : BitVec 64} {frames : List Passed}

theorem Numbered.nonce (numbered : Numbered start frames)
    (member : frame ∈ frames) : ∃ k ≤ accepted frames.tail, frame.header.nonce = start + BitVec.ofNat 64 k := by
  induction frames with
  | nil => cases member
  | cons newest older ih =>
    rcases mem_cons.mp member with rfl | inOlder
    · exact ⟨accepted older, le_rfl, numbered.1.nonce⟩
    · obtain ⟨k, bound, nonce⟩ := ih numbered.2 inOlder
      exact ⟨k, bound.trans (accepted_tail older), nonce⟩

theorem Numbered.sessional (numbered : Numbered start frames)
    (member : frame ∈ frames) : frame.msgType ∈ sessionTypes := by
  induction frames with
  | nil => cases member
  | cons newest older ih =>
    rcases mem_cons.mp member with rfl | inOlder
    · exact numbered.1.sessional
    · exact ih numbered.2 inOlder

theorem accepted_le (frames : List Passed) : accepted frames ≤ frames.length := countP_le_length

theorem Numbered.payload_eq {other : Passed} {older : List Passed}
    (numbered : Numbered start (frame :: older)) (room : start.toNat + older.length < 2 ^ 64)
    (resent : Resent (frame :: older)) (member : other ∈ older) (type : frame.msgType = other.msgType)
    (nonce : frame.header.nonce = other.header.nonce) : frame.payload = other.payload := by
  induction older generalizing frame with
  | nil => cases member
  | cons next rest ih =>
    obtain ⟨follows, inner⟩ := numbered
    obtain ⟨repeated, resent⟩ := isChain_cons_cons.mp resent
    have fewer := accepted_le rest
    simp only [length_cons] at room
    cases taken : next.accepted with
    | true =>
      -- The number has advanced since every older frame.
      obtain ⟨k, bound, before⟩ := inner.nonce member
      have now := follows.nonce
      rw [nonce, before] at now
      have equal := congrArg BitVec.toNat now
      simp only [tail_cons] at bound
      have count : accepted (next :: rest) = accepted rest + 1 := by simp [accepted, taken]
      rw [count, BitVec.toNat_add, BitVec.toNat_add, BitVec.toNat_ofNat, BitVec.toNat_ofNat] at equal
      omega
    | false =>
      obtain ⟨app, appToo⟩ := follows.afterRefusal next mem_cons_self taken
      have same := repeated app taken
      rcases mem_cons.mp member with rfl | inRest
      · exact same
      · have count : accepted (next :: rest) = accepted rest := by simp [accepted, taken]
        refine same.trans (ih inner (by omega) resent inRest ?_ ?_)
        · rw [app, ← appToo, type]
        · rw [inner.1.nonce, ← count, ← follows.nonce, nonce]

theorem Numbered.noReuse (numbered : Numbered start frames)
    (room : start.toNat + frames.length < 2 ^ 64) (resent : Resent frames) : NoReuse frames := by
  induction frames with
  | nil =>
    intro a member
    cases member
  | cons newest older ih =>
    simp only [length_cons] at room
    have earlier := ih numbered.2 (by omega) resent.tail
    have against {other : Passed} (member : other ∈ older) (type : newest.msgType = other.msgType)
        (nonce : newest.header.nonce = other.header.nonce) : newest.payload = other.payload :=
      numbered.payload_eq (by omega) resent member type nonce
    intro a inA b inB type nonce
    rcases mem_cons.mp inA with rfl | a2 <;> rcases mem_cons.mp inB with rfl | b2
    · rfl
    · exact against b2 type nonce
    · exact (against a2 type.symm nonce.symm).symm
    · exact earlier a a2 b b2 type nonce

theorem Numbered.resent (numbered : Numbered start frames) (unique : NoReuse frames) : Resent frames := by
  induction frames with
  | nil => exact isChain_nil
  | cons newest older ih =>
    have earlier : Resent older := ih numbered.2 fun a inA b inB =>
      unique a (mem_cons_of_mem _ inA) b (mem_cons_of_mem _ inB)
    cases older with
    | nil => exact isChain_singleton _
    | cons next rest =>
      refine isChain_cons_cons.mpr ⟨fun app refused => ?_, earlier⟩
      -- A refused frame leaves its number to the one after it.
      have appToo := (numbered.1.afterRefusal next mem_cons_self refused).2
      have count : accepted (next :: rest) = accepted rest := by simp [accepted, refused]
      have same : newest.header.nonce = next.header.nonce := by rw [numbered.1.nonce, count, numbered.2.1.nonce]
      exact unique newest (by simp) next (by simp) (appToo.trans app.symm) same

variable {session : List Passed}

theorem NoReuse.append (newer : NoReuse session) (older : NoReuse opening)
    (apart : ∀ a ∈ session, ∀ b ∈ opening, a.msgType ≠ b.msgType) : NoReuse (session ++ opening) := by
  intro a inA b inB type nonce
  rcases mem_append.mp inA with a1 | a2 <;> rcases mem_append.mp inB with b1 | b2
  · exact newer a a1 b b1 type nonce
  · exact absurd type (apart a a1 b b2)
  · exact absurd type.symm (apart b b1 a a2)
  · exact older a a2 b b2 type nonce

theorem NoReuse.of_append (h : NoReuse (session ++ opening)) : NoReuse session :=
  fun a inA b inB => h a (mem_append_left _ inA) b (mem_append_left _ inB)

theorem Resent.append (newer : Resent session) (older : Opening opening) : Resent (session ++ opening) := by
  refine isChain_append.mpr ⟨newer, older.resent, fun a _ b last app => ?_⟩
  have member : b ∈ opening := mem_of_mem_head? last
  exact absurd (by simp [app, sessionTypes]) (older.msgType member)

def Unwrapped (log : Log) : Prop := ∀ start, log.startingSeq = some start → start.toNat + log.passed.length < 2 ^ 64

theorem Complete.noReuse_iff (complete : Complete log) (room : Unwrapped log) :
    NoReuse log.passed ↔ Resent log.passed := by
  rcases complete with ⟨_, opened⟩ | ⟨opening, opened, start, session, started, split, numbered, _, _⟩
  · exact iff_of_true opened.noReuse opened.resent
  · have bound := room start started
    rw [split] at bound ⊢
    simp only [length_append] at bound
    constructor
    · intro unique
      exact Resent.append (numbered.resent unique.of_append) opened
    · intro resent
      refine (numbered.noReuse (by omega) (isChain_append.mp resent).1).append opened.noReuse ?_
      intro a inA b inB same
      exact opened.msgType inB (same ▸ numbered.sessional inA)

theorem runWakeCycle_noReuse_iff (platform : Platform τ) (provider : Provider) (reader : Cbor.Reader)
    (interpreter : BpfInterpreter (Host τ)) (space : AddressSpace) (board : BoardLayout) (device : Device τ)
    (room : Unwrapped
      (runWakeCycle platform provider reader interpreter space board (device.boot space.mapBacking)).2.log) :
    NoReuse (runWakeCycle platform provider reader interpreter space board (device.boot space.mapBacking)).2.log.passed ↔
      Resent (runWakeCycle platform provider reader interpreter space board (device.boot space.mapBacking)).2.log.passed :=
  (runWakeCycle_complete device).noReuse_iff room

-- `send` the byte 0 from the stack, then the byte 1.
def sendsTwice : Bytes :=
  [0xbf, 0xa1, 0, 0, 0, 0, 0, 0, 0x07, 0x01, 0, 0, 0xf8, 0xff, 0xff, 0xff, 0xb7, 0x02, 0, 0, 1, 0, 0, 0,
    0x85, 0, 0, 0, 8, 0, 0, 0, 0x72, 0x0a, 0xf8, 0xff, 1, 0, 0, 0, 0x85, 0, 0, 0, 8, 0, 0, 0, 0x95, 0, 0, 0, 0, 0, 0, 0]

def sendsTwiceLog (takes : List Bool) : Log :=
  (runWakeCycle scriptedPlatform plainProvider .definite (sondeBpfInterpreter smallSpace true) smallSpace smallBoard
    ((smallDevice (imageOf sendsTwice [])
      ⟨takes, [gatewayFrame plainProvider 7 (.command 100 0 .nop none)]⟩).boot smallSpace.mapBacking)).2.log

theorem sendsTwiceLog_room (takes : List Bool)
    (fields : (sendsTwiceLog takes).startingSeq = some 100 ∧ (sendsTwiceLog takes).passed.length = 3) :
    Unwrapped (sendsTwiceLog takes) := by
  intro start started
  rw [fields.1] at started
  cases started
  rw [fields.2]
  decide

theorem refused_number_given_again :
    Unwrapped (sendsTwiceLog [true, false, true]) ∧ ¬NoReuse (sendsTwiceLog [true, false, true]).passed := by
  refine ⟨sendsTwiceLog_room _ ?_, ?_⟩ <;> decide +kernel

theorem runWakeCycle_noReuse_iff_taken : NoReuse (sendsTwiceLog [true, true, true]).passed := by
  refine (runWakeCycle_noReuse_iff _ _ _ _ _ _ _ ?_).mpr ?_
  · exact sendsTwiceLog_room [true, true, true] (by decide +kernel)
  · change Resent (sendsTwiceLog [true, true, true]).passed
    decide +kernel

end Sonde.Node
