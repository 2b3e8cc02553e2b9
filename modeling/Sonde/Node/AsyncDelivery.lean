import Sonde.Lib.Run
import Sonde.Node.Installation
import Sonde.Node.Transmissions

/-!
# The queue over many cycles

What the program pushes is still queued or has left, in push order, in the WAKE of a cycle that got a COMMAND or in an
APP_DATA frame that the transport took.
-/

namespace Sonde.Node
open Lib Lib.Program Protocol List

variable {τ : Type}

structure SentFrame where
  frame : Passed
  answered : Bool

def SentFrame.Carries (sent : SentFrame) (blob : Bytes) : Prop :=
  (sent.frame.header.msgType = msgAppData ∧ sent.frame.accepted = true ∧
    sent.frame.payload = (NodeMessage.appData blob).encode) ∨
  (sent.frame.header.msgType = msgWake ∧ sent.answered = true ∧
    ∃ programHash batteryMv, sent.frame.payload = (wakeMessage programHash batteryMv (some blob)).encode)

def Log.sent (log : Log) : List SentFrame := log.passed.reverse.map fun frame => ⟨frame, log.startingSeq.isSome⟩

structure AsyncRun (τ : Type) where
  device : Device τ
  pushed : List Bytes
  sent : List SentFrame

open AsyncRun

def AsyncRun.start (device : Device τ) : AsyncRun τ := ⟨device, device.host.asyncQueue, []⟩

section
variable (platform : Platform τ) (provider : Provider) (reader : Cbor.Reader) (interpreter : BpfInterpreter (Host τ))
  (space : AddressSpace) (board : BoardLayout)

def AsyncRun.awoken (run : AsyncRun τ) (asleep : τ → τ) : Device τ :=
  { run.device with host := run.device.host.setWorld (asleep run.device.host.radio.world) }.boot space.mapBacking

def AsyncRun.cycled (run : AsyncRun τ) (asleep : τ → τ) : AsyncRun τ :=
  let device := (runWakeCycle platform provider reader interpreter space board (run.awoken space asleep)).2
  ⟨device, run.pushed ++ device.host.pushed, run.sent ++ device.log.sent⟩

/-- The pushed blobs are those that some of the frames carry, in the frames' order, and then those that are queued. -/
def AsyncRun.Accounted (run : AsyncRun τ) : Prop :=
  ∃ delivered frames, frames.Sublist run.sent ∧ Forall₂ SentFrame.Carries frames delivered ∧
    run.pushed = delivered ++ run.device.host.asyncQueue

def ordinary : CommandPayload → Bool
  | .nop | .updateSchedule _ => true
  | _ => false

def AsyncRun.Ordinary (run : AsyncRun τ) (asleep : τ → τ) : Prop :=
  ∀ accepted heard, awaitCommand platform provider reader (run.awoken space asleep) = (.ok accepted, heard) →
    ordinary accepted.command.payload

def draining (accepted : Accepted) (heard : Device τ) : Device τ :=
  ((do
    acceptCommand space accepted.command
    let _ ← ask platform.elapsedMs
    setQueue [] : Cycle τ Unit) heard).2

def drained (accepted : Accepted) (heard : Device τ) : Except NodeError Unit :=
  (sendPending platform provider accepted.identity heard.host.asyncQueue (draining platform space accepted heard)).1

def AsyncRun.Drains (run : AsyncRun τ) (asleep : τ → τ) : Prop :=
  ∀ accepted heard, awaitCommand platform provider reader (run.awoken space asleep) = (.ok accepted, heard) →
    accepted.command.payload = .nop → (drained platform provider space accepted heard).isOk

end

def Delivered (log : Log) (delivered : List Bytes) : Prop :=
  log.startingSeq.isSome = true ∧ ∃ frames, frames.Sublist log.sent ∧ Forall₂ SentFrame.Carries frames delivered

def Conserves (queue : AsyncQueue) (log : Log) (mail : Mail) : Prop :=
  ∃ delivered, Delivered log delivered ∧ queue ++ mail.pushed = delivered ++ mail.asyncQueue

theorem Log.sent_add (log : Log) (identity : NodeIdentity) (message : NodeMessage) (taken : Bool) :
    (log.add identity message taken).sent = log.sent ++
      [⟨⟨⟨identity.keyHint, message.msgType, log.currentSeq⟩, message.encode, taken⟩, log.startingSeq.isSome⟩] := by
  simp [Log.sent, Log.add]

variable {log : Log}

theorem Delivered.add {delivered : List Bytes} (h : Delivered log delivered) (identity : NodeIdentity)
    (message : NodeMessage) (taken : Bool) : Delivered (log.add identity message taken) delivered := by
  obtain ⟨started, frames, among, carry⟩ := h
  exact ⟨started, frames, log.sent_add identity message taken ▸ among.trans (sublist_append_left _ _), carry⟩

theorem Delivered.taken {delivered : List Bytes} (h : Delivered log delivered) (identity : NodeIdentity)
    (blob : Bytes) : Delivered (log.add identity (.appData blob) true) (delivered ++ [blob]) := by
  obtain ⟨started, frames, among, carry⟩ := h
  refine ⟨started, frames ++ [⟨⟨⟨identity.keyHint, msgAppData, log.currentSeq⟩, (NodeMessage.appData blob).encode, true⟩,
    log.startingSeq.isSome⟩], ?_, ?_⟩
  · rw [Log.sent_add]
    exact among.append (Sublist.refl _)
  · exact rel_append carry (.cons (.inl ⟨rfl, rfl, rfl⟩) .nil)

theorem lasting_conserves (identity : NodeIdentity) (queue : AsyncQueue) : Lasting identity (Conserves queue) where
  sends := by
    rintro log mail blob taken ⟨delivered, h, balance⟩
    exact ⟨delivered, h.add identity _ taken, balance⟩
  queues := by
    rintro log mail blob ⟨delivered, h, balance⟩
    refine ⟨delivered, h, ?_⟩
    rw [← append_assoc, balance, append_assoc]

variable {platform : Platform τ} {provider : Provider} {reader : Cbor.Reader} {interpreter : BpfInterpreter (Host τ)}
  {space : AddressSpace} {board : BoardLayout} {identity : NodeIdentity} {ε α : Type}

/-! ### Up to the COMMAND -/

def Woken (payload : Bytes) (log : Log) : Prop :=
  ∃ frame ∈ log.passed, frame.header.msgType = msgWake ∧ frame.payload = payload

theorem wakeAttempts_woken {link : Link τ} (nonce : BitVec 64) (payload : Bytes) (left : Nat) :
    Meets (fun _ => True) (wakeAttempts link provider reader identity nonce payload left)
      (fun _ radio => Woken payload radio.log) fun _ => True := by
  induction left with
  | zero => exact .stop fun _ _ => trivial
  | succ left ih =>
    refine .bind .trivially fun _ => ?_
    refine .bind (Q := fun _ radio => Woken payload radio.log)
      (sendFrame_meets (P := fun _ => True) ?_ (fun _ _ => trivial) fun _ _ => trivial) fun _ => ?_
    · exact fun log _ => ⟨_, mem_cons_self, rfl, rfl⟩
    refine .bind (continues_of_silent (receive_silent _) fun _ _ => trivial) fun response => ?_
    have again : Meets (fun radio : Radio τ => Woken payload radio.log)
        (wakeAttempts link provider reader identity nonce payload left) (fun _ radio => Woken payload radio.log)
        fun _ => True := .prior ih (fun _ _ => trivial)
    cases response with
    | none => exact again
    | some raw =>
      dsimp only
      cases verifyAndDecodeCommand provider reader identity raw nonce with
      | ok command => exact .pure fun _ h => h
      | error e => exact again

def Awaited (queue : AsyncQueue) (log : Log) (mail : Mail) : Prop :=
  mail.pushed = [] ∧ (mail.asyncQueue = queue ∨ ∃ blob, queue = [blob] ∧ mail.asyncQueue = [] ∧
    ∃ programHash batteryMv, Woken (wakeMessage programHash batteryMv (some blob)).encode log)

variable {queue : AsyncQueue}

theorem piggyback_some {programHash blob : Bytes} {batteryMv : Nat}
    (riding : piggyback queue programHash batteryMv = some blob) : queue = [blob] := by
  obtain ⟨single, -⟩ := Option.filter_eq_some_iff.mp riding
  unfold AsyncQueue.singleForPiggyback at single
  split at single
  · split at single
    · rw [Option.some.inj single]
    · cases single
  · cases single

variable {mail : Mail}

theorem mail_stays {m : Program (Device τ) ε α} (fixed : Fixes Device.mail m) :
    Preserves (fun device => device.mail = mail) m :=
  Fixes.meets (P := (· = mail)) fixed

theorem attempt_exchange {P : Log → Prop} {L : Device τ → Prop} {exchange : Exchange τ α}
    (met : Meets (fun _ => True) exchange (fun _ radio => P radio.log) fun _ => True) (mail : Mail) :
    Meets (fun device : Device τ => device.mail = mail)
      (Program.attempt (onRadio exchange) : Program (Device τ) ε (Except NodeError α))
      (fun result device => device.mail = mail ∧ (result.isOk → P device.log)) L := by
  refine ⟨fun device same => ⟨same, fun ok => ?_⟩⟩
  have after := met.exits device.host.radio trivial
  simp only [onRadio] at ok ⊢
  cases run : exchange device.host.radio with
  | mk result radio =>
    rw [run] at after ok
    cases result with
    | ok a => exact after
    | error e => cases ok

variable {device : Device τ}

theorem untouched (same : device.mail = ⟨queue, []⟩) : Awaited queue device.log device.mail := by
  rw [same]
  exact ⟨rfl, .inl rfl⟩

theorem offerWake_woken (queue : AsyncQueue) (programHash : Bytes) :
    Meets (fun device : Device τ => device.mail = ⟨queue, []⟩) (offerWake platform provider reader identity programHash)
      (fun offered device => device.mail = ⟨queue, []⟩ ∧ ∃ batteryMv, offered.1 = piggyback queue programHash batteryMv ∧
        (offered.2.isOk → Woken (wakeMessage programHash batteryMv offered.1).encode device.log))
      fun device => device.mail = ⟨queue, []⟩ := by
  refine .bind (mail_stays (ask_quiet _).mail) fun nonce => ?_
  refine .bind (mail_stays (.read _)) fun batteryMv => ?_
  refine .bind (Q := fun queued device => queue = queued ∧ device.mail = ⟨queue, []⟩)
    ⟨fun device same => ⟨(congrArg Mail.asyncQueue same).symm, same⟩⟩ fun queued => .given ?_
  rintro rfl
  refine .bind (attempt_exchange (wakeAttempts_woken nonce _ _) _) fun result => ?_
  exact .pure fun device h => ⟨h.1, batteryMv, rfl, h.2⟩

theorem exchangeWake_awaited (queue : AsyncQueue) (programHash : Bytes) :
    Meets (fun device : Device τ => device.mail = ⟨queue, []⟩)
      (exchangeWake platform provider reader identity programHash)
      (fun _ device => Awaited queue device.log device.mail) fun device => device.mail = ⟨queue, []⟩ := by
  refine .bind (offerWake_woken queue programHash) ?_
  rintro ⟨wakeBlob, result⟩
  cases result with
  | ok command =>
    let known (log : Log) (mail : Mail) : Prop := mail = ⟨queue, []⟩ ∧ ∃ batteryMv,
      wakeBlob = piggyback queue programHash batteryMv ∧ Woken (wakeMessage programHash batteryMv wakeBlob).encode log
    have quietly {β : Type} {m : Cycle τ β} (quiet : Quiet m) : Meets (fun device => known device.log device.mail) m
        (fun _ device => known device.log device.mail) fun device => device.mail = ⟨queue, []⟩ :=
      .early (stays_quietly quiet) fun _ h => h.1
    refine .bind (.prior (quietly (readOr_quiet _ _ _))
      fun _ ⟨same, batteryMv, riding, sent⟩ => ⟨same, batteryMv, riding, sent rfl⟩) fun payload => ?_
    refine .bind (quietly (.onlyIf ?_)) fun _ => ?_
    · exact .bind (.attempt erasePeerPayload_quiet) fun _ => .pure _
    refine .bind ?_ fun _ => .pure fun _ h => h
    cases wakeBlob with
    | none => exact .pure fun device h => untouched h.1
    | some blob =>
      refine .update ?_
      rintro device ⟨same, batteryMv, riding, sent⟩
      exact ⟨congrArg Mail.pushed same, .inr ⟨blob, piggyback_some riding.symm, rfl, programHash, batteryMv, sent⟩⟩
  | error e =>
    exact .conseq (mail_stays (settleWake_failed_quiet wakeBlob e).mail) (fun _ h => h.1) (fun _ _ h => untouched h)
      fun _ h => h

theorem awaitCommand_awaited (queue : AsyncQueue) :
    Meets (fun device : Device τ => device.mail = ⟨queue, []⟩) (awaitCommand platform provider reader)
      (fun _ device => Awaited queue device.log device.mail) fun device => device.mail = ⟨queue, []⟩ := by
  have prepares : Fixes Device.mail (prepareWake platform provider reader : Cycle τ _) :=
    .bind startCycle_quiet.mail fun identity => .bind (registerPeer_unheard.comp Prod.snd) fun _ =>
      .bind loadActiveRaw_quiet.mail fun resident => .pure _
  exact .bind (mail_stays prepares) fun prepared => .bind (exchangeWake_awaited queue _) fun command => .pure fun _ h => h

/-! ### From the COMMAND on -/

theorem sendPending_taken {blobs : AsyncQueue} {after : Device τ} {delivered : List Bytes}
    (sent : sendPending platform provider identity blobs device = (.ok (), after))
    (before : Delivered device.log delivered) : Delivered after.log (delivered ++ blobs) ∧ after.mail = device.mail := by
  induction blobs generalizing device delivered with
  | nil =>
    cases sent
    exact ⟨by rwa [append_nil], rfl⟩
  | cons blob blobs ih =>
    obtain ⟨_, next, first, rest⟩ := Program.bind_ok sent
    have taken : Meets (fun radio : Radio τ => Delivered radio.log delivered)
        (sendAppData platform.toLink provider identity blob)
        (fun _ radio => Delivered radio.log (delivered ++ [blob])) fun _ => True := by
      refine .bind (.early (continues_of_silent (P := (Delivered · delivered))
        (.ofExcept _) fun _ _ => trivial) fun _ h => h) fun _ => ?_
      refine .bind (sendInSequence_meets (P := (Delivered · delivered)) (Q := (Delivered · (delivered ++ [blob])))
        ?_ (fun _ _ => trivial) fun _ _ => trivial) fun _ => .pure fun _ h => h
      exact fun log h => h.taken identity blob
    have met := (Meets.onRadio (P := (Delivered · delivered)) (Q := fun _ log => Delivered log (delivered ++ [blob]))
      (L := fun _ => True) taken).exits device before
    rw [first] at met
    obtain ⟨delivered', mail⟩ := ih rest met
    rw [append_assoc, singleton_append] at delivered'
    have kept : next.mail = device.mail := ((onRadio_unheard _).comp Prod.snd).ok first
    exact ⟨delivered', mail.trans kept⟩

theorem Awaited.delivered (h : Awaited queue log mail) (startingSeq currentSeq : BitVec 64) :
    ∃ delivered, Delivered ⟨some startingSeq, currentSeq, log.passed⟩ delivered ∧ queue = delivered ++ mail.asyncQueue := by
  obtain ⟨-, same | ⟨blob, rfl, empty, programHash, batteryMv, frame, member, wake, payload⟩⟩ := h
  · exact ⟨[], ⟨rfl, [], nil_sublist _, .nil⟩, same.symm⟩
  · refine ⟨[blob], ⟨rfl, [⟨frame, true⟩], ?_, .cons (.inr ⟨wake, rfl, programHash, batteryMv, payload⟩) .nil⟩, by rw [empty]; rfl⟩
    simpa [Log.sent] using member

variable {accepted : Accepted}

theorem obeyCommand_nop (payload : accepted.command.payload = .nop) (heard : Device τ) :
    ∃ receivedAt, obeyCommand platform provider reader interpreter space board accepted heard =
      executeAndSleep platform provider reader interpreter space board accepted.identity accepted.command receivedAt none
        (accepted.residentImage.bind fun image => decodeImage reader image accepted.programHash)
        (sendPending platform provider accepted.identity heard.host.asyncQueue (draining platform space accepted heard)).2 := by
  refine ⟨(platform.elapsedMs heard.host.radio.world).1, ?_⟩
  rw [obeyCommand, payload]
  rfl

theorem obeyCommand_conserves {heard : Device τ}
    (awaited : Awaited queue heard.log heard.mail) (usual : ordinary accepted.command.payload)
    (drains : accepted.command.payload = .nop → (drained platform provider space accepted heard).isOk) :
    Conserves queue (obeyCommand platform provider reader interpreter space board accepted heard).2.log
      (obeyCommand platform provider reader interpreter space board accepted heard).2.mail := by
  have nothingPushed : heard.mail.pushed = [] := awaited.1
  obtain ⟨delivered, before, balance⟩ := awaited.delivered accepted.command.startingSeq accepted.command.startingSeq
  have started : Conserves queue ⟨some accepted.command.startingSeq, accepted.command.startingSeq, heard.log.passed⟩
      heard.mail := ⟨delivered, before, by rw [nothingPushed, append_nil, balance]⟩
  have which : accepted.command.payload = .nop ∨ ∃ intervalS, accepted.command.payload = .updateSchedule intervalS := by
    unfold ordinary at usual
    split at usual
    · exact .inl ‹_›
    · exact .inr ⟨_, ‹_›⟩
    · cases usual
  rcases which with nop | ⟨intervalS, schedule⟩
  · obtain ⟨receivedAt, run⟩ : ∃ receivedAt, obeyCommand platform provider reader interpreter space board accepted heard =
      executeAndSleep platform provider reader interpreter space board accepted.identity accepted.command receivedAt none _
        _ := obeyCommand_nop nop heard
    rw [run]
    refine (executeAndSleep_meets (lasting_conserves _ queue) _ _ _ _).ends ?_
    have emptied := before
    have taken : drained platform provider space accepted heard = .ok () := by
      cases result : drained platform provider space accepted heard with
      | ok done => rfl
      | error e =>
        rw [result] at drains
        cases drains nop
    obtain ⟨sent, mail⟩ := sendPending_taken (Prod.ext taken rfl) emptied
    rw [mail]
    refine ⟨_, sent, ?_⟩
    change queue ++ heard.mail.pushed = delivered ++ heard.mail.asyncQueue ++ []
    rw [nothingPushed, append_nil, append_nil, balance]
  · rw [obeyCommand, schedule]
    have begins : Meets (fun device => device = heard) (acceptCommand space accepted.command : Cycle τ Unit)
        (fun _ device => Conserves queue device.log device.mail) fun device => Conserves queue device.log device.mail := by
      refine .update ?_
      rintro _ rfl
      exact started
    have written : Fixes (fun device : Device τ => (device.log, device.mail)) (writeScheduleInterval platform intervalS) :=
      writeStorage_fixes (fun _ => rfl) fun _ => rfl
    refine (Meets.bind begins fun _ => Meets.bind (stays_quietly (ask_quiet _)) fun receivedAt =>
      .bind (.bind (stays (.attempt written)) fun result => ?_) fun installed =>
        executeAndSleep_meets (lasting_conserves _ queue) _ _ _ _).ends rfl
    exact Meets.bind (stays_quietly (Fixes.onlyIf (setSleepMgr_quiet _))) fun _ => Meets.pure fun _ h => h

/-! ## The run -/

def Balanced (queue : AsyncQueue) (after : Device τ) : Prop :=
  ∃ delivered frames, frames.Sublist after.log.sent ∧ Forall₂ SentFrame.Carries frames delivered ∧
    queue ++ after.host.pushed = delivered ++ after.host.asyncQueue

theorem cycle_balanced (fresh : device.host.pushed = [])
    (usual : ∀ accepted heard, awaitCommand platform provider reader device = (.ok accepted, heard) →
      ordinary accepted.command.payload)
    (drains : ∀ accepted heard, awaitCommand platform provider reader device = (.ok accepted, heard) →
      accepted.command.payload = .nop → (drained platform provider space accepted heard).isOk) :
    Balanced device.host.asyncQueue (runWakeCycle platform provider reader interpreter space board device).2 := by
  rw [runWakeCycle_device, cycle, bind_run]
  have start : device.mail = ⟨device.host.asyncQueue, []⟩ := by
    rw [← fresh]
    rfl
  have awaiting : Meets (fun device' : Device τ => device'.mail = ⟨device.host.asyncQueue, []⟩)
      (awaitCommand platform provider reader)
      (fun _ device' => Awaited device.host.asyncQueue device'.log device'.mail)
      fun device' => device'.mail = ⟨device.host.asyncQueue, []⟩ := awaitCommand_awaited _
  have awaited := awaiting.exits device start
  cases run : awaitCommand platform provider reader device with
  | mk result heard =>
    rw [run] at awaited
    cases result with
    | error e =>
      refine ⟨[], [], nil_sublist _, .nil, ?_⟩
      have queue : heard.host.asyncQueue = device.host.asyncQueue := congrArg Mail.asyncQueue awaited
      have pushed : heard.host.pushed = [] := congrArg Mail.pushed awaited
      rw [queue, pushed, append_nil, nil_append]
    | ok accepted =>
      obtain ⟨delivered, ⟨-, frames, among, carry⟩, balance⟩ :=
        obeyCommand_conserves awaited (usual accepted heard run) (drains accepted heard run)
      exact ⟨delivered, frames, among, carry, balance⟩

theorem cycled_accounted {run : AsyncRun τ} {asleep : τ → τ} (accounted : run.Accounted)
    (usual : run.Ordinary platform provider reader space asleep)
    (drains : run.Drains platform provider reader space asleep) :
    (run.cycled platform provider reader interpreter space board asleep).Accounted := by
  obtain ⟨delivered, frames, among, carry, balance⟩ := accounted
  have balanced : Balanced run.device.host.asyncQueue
      (runWakeCycle platform provider reader interpreter space board (run.awoken space asleep)).2 :=
    cycle_balanced rfl usual drains
  obtain ⟨delivered', frames', among', carry', balance'⟩ := balanced
  refine ⟨delivered ++ delivered', frames ++ frames', among.append among', rel_append carry carry', ?_⟩
  change run.pushed ++ (runWakeCycle platform provider reader interpreter space board (run.awoken space asleep)).2.host.pushed =
    delivered ++ delivered' ++
      (runWakeCycle platform provider reader interpreter space board (run.awoken space asleep)).2.host.asyncQueue
  rw [balance, append_assoc, balance', append_assoc]

theorem pushed_accounted (platform : Platform τ) (provider : Provider) (reader : Cbor.Reader)
    (interpreter : BpfInterpreter (Host τ)) (space : AddressSpace) (board : BoardLayout) (device : Device τ)
    (sleeps : List (τ → τ)) (conditions : Throughout (AsyncRun.cycled platform provider reader interpreter space board)
      (fun run asleep => run.Ordinary platform provider reader space asleep ∧
        run.Drains platform provider reader space asleep) (.start device) sleeps) :
    Always (AsyncRun.cycled platform provider reader interpreter space board) AsyncRun.Accounted (.start device) sleeps :=
  conditions.always (fun _ _ accounted met => cycled_accounted accounted met.1 met.2)
    ⟨[], [], nil_sublist _, .nil, rfl⟩

section
variable (platform : Platform τ) (provider : Provider) (reader : Cbor.Reader) (space : AddressSpace) (run : AsyncRun τ)
  (asleep : τ → τ)

instance : Decidable (run.Ordinary platform provider reader space asleep) :=
  match awaited : awaitCommand platform provider reader (run.awoken space asleep) with
  | (.ok accepted, heard) =>
    decidable_of_iff (ordinary accepted.command.payload = true)
      ⟨fun usual _ _ same => by cases awaited.symm.trans same; exact usual, fun usual => usual accepted heard awaited⟩
  | (.error _, _) => isTrue fun _ _ same => by cases awaited.symm.trans same

instance : Decidable (run.Drains platform provider reader space asleep) :=
  match awaited : awaitCommand platform provider reader (run.awoken space asleep) with
  | (.ok accepted, heard) =>
    decidable_of_iff (accepted.command.payload = .nop → (drained platform provider space accepted heard).isOk = true)
      ⟨fun drains _ _ same => by cases awaited.symm.trans same; exact drains, fun drains => drains accepted heard awaited⟩
  | (.error _, _) => isTrue fun _ _ same => by cases awaited.symm.trans same

end

-- `send_async` the byte 0 from the stack, then the byte 1.
def queuesTwice : Bytes :=
  [0xbf, 0xa1, 0, 0, 0, 0, 0, 0, 0x07, 0x01, 0, 0, 0xf8, 0xff, 0xff, 0xff, 0xb7, 0x02, 0, 0, 1, 0, 0, 0,
    0x85, 0, 0, 0, 17, 0, 0, 0, 0x72, 0x0a, 0xf8, 0xff, 1, 0, 0, 0, 0x85, 0, 0, 0, 17, 0, 0, 0, 0x95, 0, 0, 0, 0, 0, 0, 0]

def queueingDevice (takes : List Bool) : Device Script :=
  smallDevice (imageOf queuesTwice [])
    ⟨takes, replicate 2 (gatewayFrame plainProvider 7 (.command 100 0 .nop none))⟩

abbrev smallCycled : AsyncRun Script → (Script → Script) → AsyncRun Script :=
  cycled scriptedPlatform plainProvider .definite (sondeBpfInterpreter smallSpace true) smallSpace smallBoard

theorem pushed_accounted_taken :
    Always smallCycled AsyncRun.Accounted (.start (queueingDevice [true, true, true, true])) [id, id] :=
  pushed_accounted _ _ _ _ _ _ _ _ (by decide +kernel)

def twoCycles (takes : List Bool) : AsyncRun Script := [id, id].foldl smallCycled (.start (queueingDevice takes))

theorem wakeMessage_head (programHash : Bytes) (batteryMv : Nat) (blob : Bytes) :
    (wakeMessage programHash batteryMv (some blob)).encode.head? = some 0xa5 := rfl

theorem refused_frame_loses_queue :
    Throughout smallCycled (AsyncRun.Ordinary scriptedPlatform plainProvider .definite smallSpace)
        (.start (queueingDevice [true, true, false])) [id, id] ∧ ¬(twoCycles [true, true, false]).Accounted := by
  refine ⟨by decide +kernel, ?_⟩
  rintro ⟨delivered, frames, among, carry, balance⟩
  have none_carries : ∀ sent ∈ (twoCycles [true, true, false]).sent,
      ¬(sent.frame.header.msgType = msgAppData ∧ sent.frame.accepted = true) ∧ sent.frame.payload.head? ≠ some 0xa5 := by
    decide +kernel
  have pushed : (twoCycles [true, true, false]).pushed = [[0], [1], [0], [1]] := by decide +kernel
  have queued : (twoCycles [true, true, false]).device.host.asyncQueue = [[0], [1]] := by decide +kernel
  have left : delivered ≠ [] := by
    rintro rfl
    rw [pushed, queued] at balance
    cases balance
  cases carry with
  | nil => exact left rfl
  | @cons sent blob frames delivered carries rest =>
    obtain ⟨notData, notWake⟩ := none_carries sent (among.subset mem_cons_self)
    rcases carries with ⟨data, taken, -⟩ | ⟨-, -, programHash, batteryMv, payload⟩
    · exact notData ⟨data, taken⟩
    · exact notWake (payload ▸ wakeMessage_head programHash batteryMv blob)

end Sonde.Node
