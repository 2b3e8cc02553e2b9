import Sonde.Node.FreshStart
import Sonde.Node.Transmissions

/-!
# The stored PEER_REQUEST

The node keeps the phone's frame until a COMMAND has arrived, and relays it again after a WAKE that failed.
-/

namespace Sonde.Node
open Lib Lib.Program Protocol Device

variable {τ : Type}

section
variable (provider : Provider) (reader : Cbor.Reader) (interpreter : BpfInterpreter (Host τ)) (space : AddressSpace)
  (board : BoardLayout)

def Device.woken (device : Device τ) (wakeup : Wakeup τ) : Device τ :=
  { device with host := device.host.setWorld (wakeup.asleep device.host.radio.world) }.boot space.mapBacking

def Device.cycled (device : Device τ) (wakeup : Wakeup τ) : Device τ :=
  (runWakeCycle wakeup.platform provider reader interpreter space board (device.woken space wakeup)).2

/-- The exchange of the cycle ends with a frame that opens with the node's key and answers the cycle's WAKE nonce, and whose
COMMAND it accepts. -/
def CommandAccepted (platform : Platform τ) (device : Device τ) : Prop :=
  ∃ identity programHash residentImage ready wakeBlob command offered raw header payload world,
    device.storage.key = some identity ∧
    prepareWake platform provider reader device = (.ok (identity, programHash, residentImage), ready) ∧
    offerWake platform provider reader identity programHash ready = (.ok (wakeBlob, .ok command), offered) ∧
    platform.recv responseTimeoutMs world = (.ok (some raw), offered.host.radio.world) ∧
    verifyAndDecodeCommand provider reader identity raw (platform.randomU64 ready.host.radio.world).1 = .ok command ∧
    decodeVerifyFrame provider identity raw = .ok (header, payload) ∧ header.msgType = msgCommand ∧
    header.nonce = (platform.randomU64 ready.host.radio.world).1

/-- The frame is still stored after the cycle if it was before, or the cycle has accepted a COMMAND. -/
def KeepsRequest (frame : Bytes) (device : Device τ) (wakeup : Wakeup τ) : Prop :=
  device.storage.peerPayload = some frame →
    (device.cycled provider reader interpreter space board wakeup).storage.peerPayload = some frame ∨
      CommandAccepted provider reader wakeup.platform (device.woken space wakeup)

/-- The WAKE exchange of the cycle fails when `reg_complete` is set and the frame is stored. -/
def WakeFailed (frame : Bytes) (platform : Platform τ) (device failed : Device τ) : Prop :=
  ∃ identity programHash residentImage ready wakeBlob error,
    prepareWake platform provider reader device = (.ok (identity, programHash, residentImage), ready) ∧
    ready.storage.regComplete = true ∧ ready.storage.peerPayload = some frame ∧
    offerWake platform provider reader identity programHash ready = (.ok (wakeBlob, .error error), failed)

def ClearsRegComplete (platform : Platform τ) (failed : Device τ) : Prop :=
  let (unread, world) := platform.fails .readRegComplete failed.host.radio.world
  unread = false ∧ (platform.fails .writeRegComplete (platform.fails .readPeerPayload world).2).1 = false

def ReadsRequest (platform : Platform τ) (ready : Device τ) : Prop :=
  (platform.fails .readPeerPayload (platform.fails .readRegComplete ready.host.radio.world).2).1 = false

/-- The second of two cycles passes the frame to the transport if the first has failed and cleared the flag. -/
def RelaysAgain (frame : Bytes) (decoded : DecodedFrame) (device : Device τ) (first second : Wakeup τ) : Prop :=
  ∀ failed, WakeFailed provider reader frame first.platform (device.woken space first) failed →
    ClearsRegComplete first.platform failed →
    ∀ identity ready,
      startCycle second.platform
        ((device.cycled provider reader interpreter space board first).woken space second) = (.ok identity, ready) →
      ReadsRequest second.platform ready →
      ∃ taken, (registerPeer second.platform provider reader identity ready).2.log.passed =
        ⟨decoded.header, decoded.ciphertextAndTag, taken⟩ :: ready.log.passed

end

structure Platform.TransportErrors (platform : Platform τ) : Prop where
  send : ∀ frame world reason, (platform.send frame world).1 ≠ .error (.malformedPayload reason)
  recv : ∀ timeoutMs world reason, (platform.recv timeoutMs world).1 ≠ .error (.malformedPayload reason)

section
variable {platform : Platform τ} {provider : Provider} {reader : Cbor.Reader} {identity : NodeIdentity}
  {frame : Bytes} {decoded : DecodedFrame} {ε α : Type}

def Device.payload (device : Device τ) : Option Bytes := device.storage.peerPayload

def Device.registration (device : Device τ) : Option NodeIdentity × Option Bytes × Bool :=
  (device.storage.key, device.storage.peerPayload, device.storage.regComplete)

theorem storage_registration {m : Program (Device τ) ε α} (fixed : Fixes storage m) : Fixes registration m :=
  fixed.comp fun storage => (storage.key, storage.peerPayload, storage.regComplete)

theorem readOr_storage (call : StorageCall) (default : α) (view : Storage → α) :
    Fixes storage (readOr platform call default view : Program (Device τ) ε α) := by
  intro device
  rw [readOr_run]

theorem readSchedule_storage : Fixes storage (readSchedule platform : Program (Device τ) ε (Nat × Nat)) :=
  .bind (readOr_storage _ _ _) fun _ => .bind (readOr_storage _ _ _) fun _ => .pure _

theorem loadActiveRaw_storage :
    Fixes storage (loadActiveRaw platform provider : Program (Device τ) ε (Bytes × Option Bytes)) := by
  refine .bind readSchedule_storage fun schedule => .ite (.pure _) (.bind (readOr_storage _ _ _) fun image => ?_)
  cases image <;> exact .pure _

theorem startCycle_registration : Fixes registration (startCycle platform) := by
  refine .bind (storage_registration (readOr_storage _ _ _)) fun key => ?_
  cases key with
  | none => exact .stop _
  | some identity =>
    refine .bind (fun _ => rfl) fun healthy => .ite ?_ ?_
    · refine .bind (storage_registration readSchedule_storage) fun _ => ?_
      exact .bind (.update fun _ => rfl) fun _ => .bind (.read _) fun _ => .stop _
    · refine .bind (fun _ => rfl) fun early => .bind (storage_registration readSchedule_storage) fun _ => ?_
      exact .bind (.update fun _ => rfl) fun _ => .pure _

variable {device ready : Device τ}

theorem onRadio_storage (exchange : Exchange τ α) : Fixes storage (onRadio exchange) := fun _ => rfl

theorem offerWake_storage (programHash : Bytes) :
    Fixes storage (offerWake platform provider reader identity programHash) := by
  refine .bind (fun _ => rfl) fun nonce => .bind (.read _) fun batteryMv => .bind (.read _) fun queue => ?_
  exact .bind (.attempt (onRadio_storage _)) fun result => .pure _

/-! ### Step 3a -/

def IsMalformed (e : NodeError) : Prop := ∃ reason, e = .malformedPayload reason

variable (errors : platform.TransportErrors)

include errors in
theorem awaitPeerAck_avoids (startMs : Nat) (nonce : BitVec 64) (patience : Nat) :
    Avoids IsMalformed (awaitPeerAck platform.toLink provider reader identity startMs nonce patience) := by
  induction patience with
  | zero => exact .pure _
  | succ patience ih =>
    refine .bind (fun _ _ never => nomatch never) fun now => .ite (.pure _) ?_
    refine .bind ?_ fun response => ?_
    · rintro radio _ failed ⟨reason, rfl⟩
      exact errors.recv _ _ reason failed
    · cases response with
      | none => exact ih
      | some raw =>
        dsimp only
        split
        · exact .pure _
        · exact ih

variable (decodes : decodeFrame frame = .ok decoded)

include errors decodes in
theorem peerRequestExchange_avoids :
    Avoids IsMalformed (peerRequestExchange platform.toLink provider reader identity frame) := by
  refine .bind (.ofExcept ?_) fun found => .bind ?_ fun _ =>
    .bind (fun _ _ never => nomatch never) fun startMs => awaitPeerAck_avoids errors _ _ _
  · rintro _ unbuilt ⟨reason, rfl⟩
    unfold buildPeerRequestFrame at unbuilt
    rw [decodes] at unbuilt
    dsimp only at unbuilt
    split at unbuilt <;> cases unbuilt
  · rintro radio _ failed ⟨reason, rfl⟩
    exact errors.send _ _ reason failed

abbrev Retains (frame : Bytes) (m : Program (Device τ) ε α) (Q : α → Prop) : Prop :=
  Keeps (fun device => device.storage.peerPayload = some frame) m Q

theorem retained {m : Program (Device τ) ε α} (fixed : Fixes payload m) : Retains frame m fun _ => True :=
  Fixes.keeps (P := (· = some frame)) fixed

theorem readOr_payload (call : StorageCall) (default : α) (view : Storage → α) :
    Fixes payload (readOr platform call default view : Program (Device τ) ε α) :=
  (readOr_storage call default view).comp Storage.peerPayload

theorem writeRegComplete_payload (complete : Bool) : Fixes payload (writeRegComplete platform complete) :=
  .bind (fun _ => rfl) fun _ => .ite (.stop _) (.update fun _ => rfl)

theorem logAndSleep_payload : Fixes payload (logAndSleep : Cycle τ α) := .bind (.read _) fun _ => .stop _

theorem storedRequest_finds :
    Retains frame (storedRequest platform : Cycle τ (Option Bytes)) fun request => ∀ found, request = some found → found = frame := by
  refine .bind (retained (readOr_payload _ _ _)) fun complete _ => .ite (fun _ => .pure nofun) fun _ => ?_
  intro device stored
  rw [readPeerPayload, readOr_run]
  refine ⟨stored, ?_⟩
  rintro _ ⟨⟩ found read
  split at read
  · cases read
  · exact Option.some.inj (read.symm.trans stored)

include errors decodes in
theorem relayRequest_retains : Retains frame (relayRequest platform provider reader identity frame) fun _ => True := by
  refine .bind (P := fun result => ∀ e, result = .error e → ¬IsMalformed e) ?_ fun result harmless => ?_
  · have writes : Avoids IsMalformed (writeRegComplete platform true) :=
      .bind (fun _ _ never => nomatch never) fun _ => .ite (.stop (nomatch ·)) (.update _)
    let relaying : Program (Device τ) NodeError Bool := do
      let acked ← onRadio (peerRequestExchange platform.toLink provider reader identity frame)
      Program.onlyIf acked (writeRegComplete platform true)
      return acked
    have avoids : Avoids IsMalformed relaying :=
      .bind (fun device => peerRequestExchange_avoids errors decodes device.host.radio) fun acked =>
        .bind (.onlyIf writes) fun _ => .pure _
    have fixed : Fixes payload relaying :=
      .bind (fun _ => rfl) fun acked => .bind (.onlyIf (writeRegComplete_payload true)) fun _ => .pure _
    refine fun device stored => ⟨(fixed device).trans stored, ?_⟩
    rintro _ ⟨⟩ e failed
    exact avoids device e failed
  · unfold heedRelay
    split
    · exact .pure trivial
    · exact retained logAndSleep_payload
    · rename_i reason
      exact (harmless _ rfl ⟨reason, rfl⟩).elim
    · exact retained logAndSleep_payload

include errors decodes in
theorem prepareWake_retains : Retains frame (prepareWake platform provider reader) fun _ => True := by
  refine .bind (retained (startCycle_registration.comp (·.2.1))) fun identity _ => ?_
  refine .bind (P := fun _ => True) ?_ fun _ _ => ?_
  · refine .bind storedRequest_finds fun request isFrame => ?_
    cases request with
    | none => exact .pure trivial
    | some completeFrame =>
      obtain rfl := isFrame completeFrame rfl
      exact relayRequest_retains errors decodes
  · exact .bind (retained (loadActiveRaw_storage.comp Storage.peerPayload)) fun _ _ => .pure trivial

/-! ### Steps 5 and 6 -/

theorem settleWake_failed_payload (wakeBlob : Option Bytes) (e : NodeError) :
    Fixes payload (settleWake platform wakeBlob (.error e)) := by
  refine .bind (readOr_payload _ _ _) fun complete => .bind (readOr_payload _ _ _) fun present => ?_
  refine .bind (.onlyIf ?_) fun _ => logAndSleep_payload
  exact .bind (.attempt (writeRegComplete_payload false)) fun _ => .pure _

variable {nonce : BitVec 64} {command : Command}

theorem wakeAttempts_accepts {payload : Bytes} {left : Nat} {radio radio' : Radio τ}
    (accepts : wakeAttempts platform.toLink provider reader identity nonce payload left radio = (.ok command, radio')) :
    ∃ raw world, platform.recv responseTimeoutMs world = (.ok (some raw), radio'.world) ∧
      verifyAndDecodeCommand provider reader identity raw nonce = .ok command := by
  induction left generalizing radio with
  | zero => cases accepts
  | succ left ih =>
    obtain ⟨_, delayed, -, accepts⟩ := bind_ok accepts
    obtain ⟨_, sent, -, accepts⟩ := bind_ok accepts
    obtain ⟨response, heard, hears, accepts⟩ := bind_ok accepts
    cases response with
    | none => exact ih accepts
    | some raw =>
      dsimp only at accepts
      cases verified : verifyAndDecodeCommand provider reader identity raw nonce with
      | ok found =>
        rw [verified] at accepts
        cases accepts
        have received : (receive platform.toLink responseTimeoutMs sent).map id Radio.world = (.ok (some raw), radio'.world) := by
          rw [hears]
          rfl
        exact ⟨raw, sent.world, received, verified⟩
      | error e =>
        rw [verified] at accepts
        exact ih accepts

theorem verifyAndDecodeCommand_authentic {raw : Bytes}
    (verified : verifyAndDecodeCommand provider reader identity raw nonce = .ok command) :
    ∃ header payload, decodeVerifyFrame provider identity raw = .ok (header, payload) ∧ header.msgType = msgCommand ∧
      header.nonce = nonce := by
  obtain ⟨⟨header, payload⟩, opened, verified⟩ := bind_eq_ok.mp verified
  refine ⟨header, payload, opened, ?_⟩
  dsimp only at verified
  split at verified
  · cases verified
  · rename_i isCommand
    split at verified
    · cases verified
    · rename_i bound
      exact ⟨not_not.mp isCommand, not_not.mp bound⟩

theorem offerWake_accepts {programHash : Bytes} {offered : Device τ} {wakeBlob : Option Bytes}
    (accepts : offerWake platform provider reader identity programHash ready = (.ok (wakeBlob, .ok command), offered)) :
    ∃ raw world header payload, platform.recv responseTimeoutMs world = (.ok (some raw), offered.host.radio.world) ∧
      verifyAndDecodeCommand provider reader identity raw (platform.randomU64 ready.host.radio.world).1 = .ok command ∧
      decodeVerifyFrame provider identity raw = .ok (header, payload) ∧ header.msgType = msgCommand ∧
      header.nonce = (platform.randomU64 ready.host.radio.world).1 := by
  obtain ⟨nonce, drawn, draws, accepts⟩ := bind_ok accepts
  obtain ⟨batteryMv, _, -, accepts⟩ := bind_ok accepts
  obtain ⟨queue, asked, -, accepts⟩ := bind_ok accepts
  obtain ⟨result, ended, exchange, accepts⟩ := bind_ok accepts
  cases accepts
  simp only [Program.attempt, onRadio, wakeCommandExchange, Prod.mk.injEq, Except.ok.injEq] at exchange
  obtain ⟨succeeds, rfl⟩ := exchange
  obtain ⟨raw, world, received, verified⟩ := wakeAttempts_accepts (run_of_ok succeeds)
  obtain ⟨header, payload, opened, isCommand, bound⟩ := verifyAndDecodeCommand_authentic verified
  obtain rfl : (platform.randomU64 ready.host.radio.world).1 = nonce := Except.ok.inj (congrArg Prod.fst draws)
  exact ⟨raw, world, header, payload, received, verified, opened, isCommand, bound⟩

include errors decodes in
theorem awaitCommand_keeps_request :
    Meets (fun device : Device τ => device.storage.peerPayload = some frame) (awaitCommand platform provider reader)
      (fun _ _ => True) fun device => device.storage.peerPayload = some frame := by
  refine .bind (prepareWake_retains errors decodes).meets ?_
  rintro ⟨identity, programHash, residentImage⟩
  refine .given fun _ => .bind (Q := fun _ _ => True) ?_ fun _ => .pure fun _ _ => trivial
  refine .bind (Fixes.meets (P := fun storage : Storage => storage.peerPayload = some frame) (offerWake_storage _)) ?_
  rintro ⟨wakeBlob, result⟩
  cases result with
  | error e =>
    exact .conseq (Fixes.meets (P := fun payload : Option Bytes => payload = some frame)
      (settleWake_failed_payload wakeBlob e)) (fun _ h => h) (fun _ _ _ => trivial) fun _ h => h
  | ok command =>
    have reads : Avoids (fun _ => True) (hasPeerPayload platform : Cycle τ Bool) := by
      intro device e failed
      rw [hasPeerPayload, readOr_run] at failed
      cases failed
    -- No call of this branch ends the cycle.
    have never : Avoids (fun _ => True) (settleWake platform wakeBlob (.ok command)) :=
      .bind reads fun present => .bind (.onlyIf (.bind (fun _ _ never => by cases never)
        fun _ => .pure _)) fun _ => .bind (.onlyIf (.update _)) fun _ => .pure _
    refine ⟨fun device stored => ?_⟩
    split
    · trivial
    · rename_i failed
      exact (never device _ (congrArg Prod.fst failed) trivial).elim

variable {heard : Device τ}

theorem awaitCommand_accepts {accepted : Accepted}
    (awaited : awaitCommand platform provider reader device = (.ok accepted, heard)) :
    CommandAccepted provider reader platform device := by
  obtain ⟨⟨identity, programHash, residentImage⟩, ready, prepared, awaited⟩ := bind_ok awaited
  obtain ⟨command, settled, exchanges, -⟩ := bind_ok awaited
  obtain ⟨⟨wakeBlob, result⟩, offered, offers, settles⟩ := bind_ok exchanges
  cases result with
  | ok command =>
    obtain ⟨raw, world, header, payload, received⟩ := offerWake_accepts offers
    exact ⟨identity, programHash, residentImage, ready, wakeBlob, command, offered, raw, header, payload, world,
      prepareWake_key prepared, prepared, offers, received⟩
  | error e =>
    obtain ⟨_, _, -, settles⟩ := bind_ok settles
    obtain ⟨_, _, -, settles⟩ := bind_ok settles
    obtain ⟨_, _, -, settles⟩ := bind_ok settles
    cases settles

variable {interpreter : BpfInterpreter (Host τ)} {space : AddressSpace} {board : BoardLayout}

theorem runWakeCycle_unheard {exit : Exit}
    (unheard : awaitCommand platform provider reader device = (.error exit, heard)) :
    (runWakeCycle platform provider reader interpreter space board device).2 = heard := by
  unfold runWakeCycle
  rw [cycle, bind_run, unheard]
  cases exit <;> rfl

theorem cycled_keeps_request (wakeup : Wakeup τ) (errors : wakeup.platform.TransportErrors)
    (decodes : decodeFrame frame = .ok decoded) (device : Device τ) :
    KeepsRequest provider reader interpreter space board frame device wakeup := by
  intro stored
  have woken : (device.woken space wakeup).storage.peerPayload = some frame := stored
  have kept : Meets (fun device : Device τ => device.storage.peerPayload = some frame)
      (awaitCommand wakeup.platform provider reader) (fun _ _ => True)
      fun device => device.storage.peerPayload = some frame := awaitCommand_keeps_request errors decodes
  have outcome := kept.exits _ woken
  cases awaited : awaitCommand wakeup.platform provider reader (device.woken space wakeup) with
  | mk result heard =>
    rw [awaited] at outcome
    cases result with
    | ok accepted => exact .inr (awaitCommand_accepts awaited)
    | error exit =>
      left
      unfold cycled
      rw [runWakeCycle_unheard awaited]
      exact outcome

/-! ### After a WAKE that failed -/

theorem settleWake_clears {failed : Device τ} (clears : ClearsRegComplete platform failed)
    (complete : failed.storage.regComplete = true) (present : failed.storage.peerPayload.isSome)
    (wakeBlob : Option Bytes) (e : NodeError) :
    ∃ exit healed, settleWake platform wakeBlob (.error e) failed = (.error exit, healed) ∧
      healed.storage = { failed.storage with regComplete := false } := by
  obtain ⟨read, written⟩ := clears
  have isComplete : (readRegComplete platform : Cycle τ Bool) failed =
      (.ok true, { failed with host := failed.host.setWorld (platform.fails .readRegComplete failed.host.radio.world).2 }) := by
    rw [readRegComplete, readOr_run, if_neg (Bool.eq_false_iff.mp read), complete]
  set flagged : Device τ :=
    { failed with host := failed.host.setWorld (platform.fails .readRegComplete failed.host.radio.world).2 }
  have isPresent : (hasPeerPayload platform : Cycle τ Bool) flagged = (.ok true,
      { flagged with host := flagged.host.setWorld (platform.fails .readPeerPayload flagged.host.radio.world).2 }) := by
    have found : flagged.storage.peerPayload.isSome = true := present
    rw [hasPeerPayload, readOr_run, found, ite_self]
  set checked : Device τ :=
    { flagged with host := flagged.host.setWorld (platform.fails .readPeerPayload flagged.host.radio.world).2 }
  have clears : ∃ healed, writeRegComplete platform false checked = (.ok (), healed) ∧
      healed.storage = { failed.storage with regComplete := false } := by
    have writable : (platform.fails .writeRegComplete checked.host.radio.world).1 = false := written
    rw [writeRegComplete, writeStorage_run, writable, if_neg Bool.false_ne_true]
    exact ⟨_, rfl, rfl⟩
  obtain ⟨healed, writes, storage⟩ := clears
  refine ⟨.returned (.sleep healed.host.sleepMgr.effectiveSleepS), healed, ?_, storage⟩
  simp only [settleWake, bind_run, isComplete, isPresent, Program.onlyIf, Bool.and_self, if_true, Program.attempt, writes,
    pure_run]
  rfl

theorem peerRequestExchange_passes (decodes : decodeFrame frame = .ok decoded)
    (isRequest : decoded.header.msgType = msgPeerRequest) (radio : Radio τ) :
    ∃ taken, (peerRequestExchange platform.toLink provider reader identity frame radio).2.passed =
      ⟨decoded.header, decoded.ciphertextAndTag, taken⟩ :: radio.passed := by
  have built : buildPeerRequestFrame frame = .ok decoded := by
    simp [buildPeerRequestFrame, decodes, isRequest]
  have waits (startMs : Nat) : Silent (awaitPeerAck platform.toLink provider reader identity startMs decoded.header.nonce
      platform.patience) := awaitPeerAck_silent _ _ _
  have silent : Silent (do
      let startMs ← elapsedMs platform.toLink
      awaitPeerAck platform.toLink provider reader identity startMs decoded.header.nonce platform.patience) :=
    .bind elapsedMs_silent waits
  refine ⟨(platform.send frame radio.world).1.isOk, ?_⟩
  have passed := congrArg Log.passed (Fixes.after (m := transmit platform.toLink decoded.header decoded.ciphertextAndTag frame)
    (fun _ : Unit => silent) radio)
  unfold peerRequestExchange
  rw [built]
  exact passed

theorem registerPeer_relays (decodes : decodeFrame frame = .ok decoded)
    (isRequest : decoded.header.msgType = msgPeerRequest)
    (incomplete : ready.storage.regComplete = false) (stored : ready.storage.peerPayload = some frame)
    (reads : ReadsRequest platform ready) :
    ∃ taken, (registerPeer platform provider reader identity ready).2.log.passed =
      ⟨decoded.header, decoded.ciphertextAndTag, taken⟩ :: ready.log.passed := by
  let flagged : Device τ :=
    { ready with host := ready.host.setWorld (platform.fails .readRegComplete ready.host.radio.world).2 }
  let found : Device τ :=
    { flagged with host := flagged.host.setWorld (platform.fails .readPeerPayload flagged.host.radio.world).2 }
  have isIncomplete : (readRegComplete platform : Cycle τ Bool) ready = (.ok false, flagged) := by
    rw [readRegComplete, readOr_run, incomplete, ite_self]
  have isFound : (readPeerPayload platform : Cycle τ (Option Bytes)) flagged = (.ok (some frame), found) := by
    have readable : (platform.fails .readPeerPayload flagged.host.radio.world).1 = false := reads
    have present : flagged.storage.peerPayload = some frame := stored
    rw [readPeerPayload, readOr_run, readable, if_neg Bool.false_ne_true, present]
  have request : storedRequest platform ready = (.ok (some frame), found) := by
    simp only [storedRequest, bind_run, isIncomplete, Bool.false_eq_true, if_false, isFound]
  rw [registerPeer, bind_run, request]
  dsimp only
  rw [relayRequest_log]
  exact peerRequestExchange_passes decodes isRequest found.host.radio

theorem cycled_relays_again (first second : Wakeup τ) (decodes : decodeFrame frame = .ok decoded)
    (isRequest : decoded.header.msgType = msgPeerRequest) (device : Device τ) :
    RelaysAgain provider reader interpreter space board frame decoded device first second := by
  rintro failed ⟨identity, programHash, residentImage, ready, wakeBlob, e, prepared, complete, stored, offers⟩ clears
    found ready' starts reads
  have same : failed.storage = ready.storage := (offerWake_storage programHash).ok offers
  obtain ⟨exit, healed, settles, cleared⟩ := settleWake_clears clears (same ▸ complete) (by rw [same, stored]; rfl) wakeBlob e
  have unheard : awaitCommand first.platform provider reader (device.woken space first) = (.error exit, healed) := by
    simp only [awaitCommand, exchangeWake, bind_run, prepared, offers, settles]
  have slept : (device.cycled provider reader interpreter space board first).storage =
      { failed.storage with regComplete := false } := by
    unfold cycled
    rw [runWakeCycle_unheard unheard, cleared]
  have awoken : ((device.cycled provider reader interpreter space board first).woken space second).storage =
      { failed.storage with regComplete := false } := slept
  have kept := startCycle_registration.ok starts
  have registration : ready'.registration = (failed.storage.key, some frame, false) := by
    rw [kept, registration, awoken, same, stored]
  obtain ⟨-, registration⟩ := Prod.mk.inj registration
  obtain ⟨request, incomplete⟩ := Prod.mk.inj registration
  exact registerPeer_relays decodes isRequest incomplete request reads

end

/-- In every run of cycles a PEER_REQUEST that is stored is erased only in a cycle that accepts a COMMAND. After a WAKE that
failed with the node registered, the next cycle relays it again if the flag could be read and cleared and the cycle gets to
step 3a and can read it. -/
theorem registration_kept (provider : Provider) (reader : Cbor.Reader) (interpreter : BpfInterpreter (Host τ))
    (space : AddressSpace) (board : BoardLayout) (device : Device τ) (frame : Bytes) (decoded : DecodedFrame)
    (decodes : decodeFrame frame = .ok decoded) (isRequest : decoded.header.msgType = msgPeerRequest)
    (wakeups : List (Wakeup τ)) (errors : ∀ wakeup ∈ wakeups, wakeup.platform.TransportErrors) :
    Throughout (Device.cycled provider reader interpreter space board)
        (KeepsRequest provider reader interpreter space board frame) device wakeups ∧
      ∀ done first second rest, wakeups = done ++ first :: second :: rest →
        RelaysAgain provider reader interpreter space board frame decoded
          (done.foldl (Device.cycled provider reader interpreter space board) device) first second := by
  refine ⟨?_, fun done first second rest _ => cycled_relays_again first second decodes isRequest _⟩
  induction wakeups generalizing device with
  | nil => trivial
  | cons wakeup wakeups ih =>
    exact ⟨cycled_keeps_request wakeup (errors wakeup List.mem_cons_self) decodes device,
      ih _ fun later member => errors later (List.mem_cons_of_mem _ member)⟩

def peerFrame : Bytes := ((encodeFrame plainProvider ⟨0, msgPeerRequest, 3⟩ [] 9).toOption).getD []

def unansweredDevice : Device Script :=
  let device := smallDevice [] ⟨List.replicate 4 true, []⟩
  { device with storage := { device.storage with peerPayload := some peerFrame } }

abbrev unansweredCycled : Device Script → Wakeup Script → Device Script :=
  cycled plainProvider .definite (sondeBpfInterpreter smallSpace true) smallSpace smallBoard

def sentAfter (first second : Platform Script) : List (BitVec 8) :=
  (unansweredCycled (unansweredCycled unansweredDevice ⟨first, id⟩) ⟨second, id⟩).log.passed.map (·.header.msgType)

theorem registration_kept_relays : sentAfter scriptedPlatform scriptedPlatform = [msgPeerRequest] ∧
      Throughout unansweredCycled (KeepsRequest plainProvider .definite (sondeBpfInterpreter smallSpace true) smallSpace smallBoard
        peerFrame) unansweredDevice [scriptedWakeup, scriptedWakeup] := by
  have errors : scriptedPlatform.TransportErrors := by
    refine ⟨fun frame script reason => ?_, fun _ _ _ => nofun⟩
    simp only [scriptedPlatform]
    split <;> nofun
  refine ⟨by decide +kernel, (registration_kept plainProvider .definite (sondeBpfInterpreter smallSpace true) smallSpace
    smallBoard unansweredDevice peerFrame ⟨⟨0, msgPeerRequest, 3⟩, peerFrame.drop headerSize⟩ (by decide +kernel) rfl
    [scriptedWakeup, scriptedWakeup] ?_).1⟩
  intro wakeup member
  have same : wakeup = scriptedWakeup := by simpa using member
  exact same ▸ errors

def failingReads (fails : StorageCall → Script → Bool) : Platform Script :=
  { scriptedPlatform with fails := fun call script => (fails call script, script) }

def firstWoken : Device Script := unansweredDevice.woken smallSpace scriptedWakeup

-- The flag cannot be read once the WAKEs are sent.
def unreadFlag : Platform Script := failingReads fun call script => call = .readRegComplete ∧ script.takes = []

theorem unread_flag_not_relayed :
    (∃ failed, WakeFailed plainProvider .definite peerFrame unreadFlag firstWoken failed) ∧
      sentAfter unreadFlag scriptedPlatform = List.replicate 4 msgWake ∧
      sentAfter scriptedPlatform (failingReads fun call _ => call = .readKey) = [] ∧
      sentAfter scriptedPlatform (failingReads fun call _ => call = .readPeerPayload) = List.replicate 4 msgWake ∧
      sentAfter scriptedPlatform { scriptedPlatform with healthCheck := fun script => (false, script) } = [] := by
  have prepared : (prepareWake unreadFlag plainProvider .definite firstWoken).1 =
      .ok (smallIdentity, hashBytes plainProvider [], some []) := by decide +kernel
  have registered : (prepareWake unreadFlag plainProvider .definite firstWoken).2.storage.regComplete = true := by decide +kernel
  have stored : (prepareWake unreadFlag plainProvider .definite firstWoken).2.storage.peerPayload = some peerFrame := by
    decide +kernel
  have offered : (offerWake unreadFlag plainProvider .definite smallIdentity (hashBytes plainProvider [])
      (prepareWake unreadFlag plainProvider .definite firstWoken).2).1 = .ok (none, .error .wakeRetriesExhausted) := by
    decide +kernel
  refine ⟨⟨_, _, _, _, _, _, _, run_of_ok prepared, registered, stored, run_of_ok offered⟩, ?_, ?_, ?_, ?_⟩
  all_goals decide +kernel

end Sonde.Node
