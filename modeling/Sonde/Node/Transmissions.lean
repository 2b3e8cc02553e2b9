import Sonde.Node.Effects

/-!
# What is sent and queued

The exchanges add frames to the log, the program does so through two of its helpers and queues blobs through a third.
The rules are for any property of the log, or of the log and the queue.
-/

namespace Sonde.Node
open Lib Lib.Program Protocol
open Bpf (Helper HelperDescriptor)

variable {τ : Type}

def Log.add (log : Log) (identity : NodeIdentity) (message : NodeMessage) (taken : Bool) : Log :=
  { log with
    currentSeq := if taken then log.currentSeq + 1 else log.currentSeq
    passed := ⟨⟨identity.keyHint, message.msgType, log.currentSeq⟩, message.encode, taken⟩ :: log.passed }

/-! ## Exchanges -/

variable {P Q L : Log → Prop} {link : Link τ} {provider : Provider} {reader : Cbor.Reader} {identity : NodeIdentity}

abbrev Silent {α : Type} (exchange : Exchange τ α) : Prop := Fixes Radio.log exchange

theorem receive_silent (timeoutMs : Nat) : Silent (receive link timeoutMs) := fun _ => rfl

theorem elapsedMs_silent : Silent (elapsedMs link) := fun _ => rfl

theorem delayMs_silent (ms : Nat) : Silent (delayMs link ms) := fun _ => rfl

attribute [grind ←] receive_silent elapsedMs_silent delayMs_silent

theorem awaitReply_silent (deadline : Nat) (seq : BitVec 64) (patience : Nat) :
    Silent (awaitReply link provider reader identity deadline seq patience) := by
  induction patience with
  | zero => exact .stop _
  | succ patience ih =>
    refine .bind elapsedMs_silent fun now => .ite (.stop _) (.bind (receive_silent _) ?_)
    intro response
    cases response with
    | none => exact .stop _
    | some raw =>
      dsimp only
      cases appDataReply provider reader identity raw seq with
      | none => exact ih
      | some blob => exact .pure _

theorem awaitChunk_silent (deadline : Nat) (seq : BitVec 64) (chunkIndex patience : Nat) :
    Silent (awaitChunk link provider reader identity deadline seq chunkIndex patience) := by
  induction patience with
  | zero => exact .pure _
  | succ patience ih =>
    refine .bind elapsedMs_silent fun now => .ite (.pure _) (.bind (receive_silent _) ?_)
    intro response
    cases response with
    | none => exact .pure _
    | some raw =>
      dsimp only
      split
      · exact .pure _
      · exact ih
      · exact .pure _

theorem awaitPeerAck_silent (startMs : Nat) (nonce : BitVec 64) (patience : Nat) :
    Silent (awaitPeerAck link provider reader identity startMs nonce patience) := by
  induction patience with
  | zero => exact .pure _
  | succ patience ih =>
    refine .bind elapsedMs_silent fun now => .ite (.pure _) (.bind (receive_silent _) ?_)
    intro response
    cases response with
    | none => exact ih
    | some raw =>
      dsimp only
      split
      · exact .pure _
      · exact ih

theorem sendFrame_meets {msgType : BitVec 8} {nonce : BitVec 64} {payload : Bytes}
    (taken : ∀ log, P log → Q { log with passed := ⟨⟨identity.keyHint, msgType, nonce⟩, payload, true⟩ :: log.passed })
    (refused : ∀ log, P log → L { log with passed := ⟨⟨identity.keyHint, msgType, nonce⟩, payload, false⟩ :: log.passed })
    (unsent : ∀ log, P log → L log) :
    Meets (fun radio => P radio.log) (sendFrame link provider identity msgType nonce payload)
      (fun _ radio => Q radio.log) fun radio => L radio.log := by
  refine ⟨fun radio before => ?_⟩
  simp only [sendFrame]
  cases encodeFrame provider ⟨identity.keyHint, msgType, nonce⟩ payload identity.psk with
  | error e => exact unsent _ before
  | ok frame =>
    cases answer : link.send frame radio.world with
    | mk result world =>
      simp only [transmit, answer]
      cases result with
      | ok _ => exact taken _ before
      | error e => exact refused _ before

theorem sendInSequence_meets {message : NodeMessage} (taken : ∀ log, P log → Q (log.add identity message true))
    (refused : ∀ log, P log → L (log.add identity message false)) (unsent : ∀ log, P log → L log) :
    Meets (fun radio => P radio.log) (sendInSequence link provider identity message) (fun _ radio => Q radio.log)
      fun radio => L radio.log := by
  refine .bind .read fun seq => ?_
  let before (log : Log) : Prop := P log ∧ log.currentSeq = seq
  let after (log : Log) : Prop := ∃ old, before old ∧ log = { old with
    passed := ⟨⟨identity.keyHint, message.msgType, seq⟩, message.encode, true⟩ :: old.passed }
  have sent : Meets (fun radio : Radio τ => before radio.log)
      (sendFrame link provider identity message.msgType seq message.encode) (fun _ radio => after radio.log)
      fun radio => L radio.log := by
    apply sendFrame_meets
    · exact fun log h => ⟨log, h, rfl⟩
    · rintro log ⟨h, rfl⟩
      exact refused log h
    · exact fun log h => unsent log h.1
  refine .bind sent fun _ => ?_
  refine .bind (.update ?_) fun _ => .pure fun _ h => h
  rintro ⟨world, currentSeq, startingSeq, passed⟩ ⟨old, ⟨h, rfl⟩, same⟩
  obtain ⟨rfl, rfl, rfl⟩ := Log.mk.inj same
  exact taken old h

abbrev Continues {α : Type} (P L : Log → Prop) (exchange : Exchange τ α) : Prop :=
  Meets (fun radio => P radio.log) exchange (fun _ radio => P radio.log) fun radio => L radio.log

theorem continues_of_silent {α : Type} {exchange : Exchange τ α} (silent : Silent exchange)
    (weaken : ∀ log, P log → L log) : Continues P L exchange :=
  .early (Fixes.meets silent) fun _ h => weaken _ h

section
variable {blob : Bytes} (add : ∀ log taken, P log → P (log.add identity (.appData blob) taken))
include add

theorem sendAppData_continues : Continues P P (sendAppData link provider identity blob) := by
  refine .bind (continues_of_silent (.ofExcept _) fun _ h => h) fun _ => ?_
  refine .bind (sendInSequence_meets ?_ ?_ fun _ h => h) fun _ => .pure fun _ h => h
  · exact fun log h => add log true h
  · exact fun log h => add log false h

theorem sendRecvAppData_continues (timeoutMs : Nat) :
    Continues P P (sendRecvAppData link provider reader identity blob timeoutMs) := by
  refine .bind (continues_of_silent (.ofExcept _) fun _ h => h) fun _ => ?_
  refine .bind (Q := fun _ radio => P radio.log) (sendInSequence_meets ?_ ?_ fun _ h => h) fun seq => ?_
  · exact fun log h => add log true h
  · exact fun log h => add log false h
  refine .bind (continues_of_silent elapsedMs_silent fun _ h => h) fun now => ?_
  exact continues_of_silent (awaitReply_silent _ _ _) fun _ h => h

end

section
variable {platform : Platform τ} {interpreter : BpfInterpreter (Host τ)} {space : AddressSpace} {board : BoardLayout}
    {ε α : Type}

theorem Meets.onRadio {Q : α → Log → Prop} {exchange : Exchange τ α}
    (h : Meets (fun radio => P radio.log) exchange (fun a radio => Q a radio.log) fun radio => L radio.log) :
    Meets (fun device : Device τ => P device.log) (onRadio exchange) (fun a device => Q a device.log)
      fun device => L device.log :=
  onRadio_meets h

variable {m : Program (Device τ) ε α}

variable (P m) in
abbrev Logs (Q L : Log → Prop) : Prop :=
  Meets (fun device => P device.log) m (fun _ device => Q device.log) fun device => L device.log

theorem ends_silently (fixed : Fixes Device.log m) (weaken : ∀ log, P log → L log) : Logs P m P L :=
  .early (Fixes.meets fixed) fun _ h => weaken _ h

theorem ends_quietly (quiet : Quiet m) (weaken : ∀ log, P log → L log) : Logs P m P L := ends_silently quiet.log weaken

/-! ### The program -/

section
variable {hal : Hal τ} {ctx : Dispatch} {P : Log → Mail → Prop}

variable (identity P) in
structure Lasting : Prop where
  sends : ∀ log mail blob taken, P log mail → P (log.add identity (.appData blob) taken) mail
  queues : ∀ log mail blob, P log mail → P log ⟨mail.asyncQueue ++ [blob], mail.pushed ++ [blob]⟩

def HelperKeeps (P : Log → Mail → Prop) (helper : Helper (Host τ)) : Prop := ∀ r1 r2 r3 r4 r5 mem host,
  P host.radio.log host.mail → P (helper r1 r2 r3 r4 r5 mem host).2.2.radio.log (helper r1 r2 r3 r4 r5 mem host).2.2.mail

theorem helperSend_keeps (lasting : Lasting ctx.identity P) : HelperKeeps P (helperSend link provider ctx) := by
  intro r1 r2 r3 r4 r5 mem host h
  unfold helperSend
  split
  · exact h
  · have after : P (sendAppData link provider ctx.identity (mem.slice (usize r1) (usize r2).toNat) host.radio).2.log
        host.mail :=
      (sendAppData_continues (P := fun log => P log host.mail) fun _ _ => lasting.sends _ _ _ _).ends h
    split
    all_goals
      rename_i run
      rw [run] at after
      exact after

theorem helperSendRecv_keeps (lasting : Lasting ctx.identity P) :
    HelperKeeps P (helperSendRecv link provider reader ctx) := by
  intro r1 r2 r3 r4 r5 mem host h
  unfold helperSendRecv
  split
  · exact h
  · have after : P (sendRecvAppData link provider reader ctx.identity (mem.slice (usize r1) (usize r2).toNat)
        (sendRecvTimeout r5) host.radio).2.log host.mail :=
      (sendRecvAppData_continues (P := fun log => P log host.mail) (fun _ _ => lasting.sends _ _ _ _) _).ends h
    dsimp only
    split
    all_goals
      rename_i run
      rw [run] at after
    · exact after
    · split
      · exact after
      · exact after

theorem helperSendAsync_keeps (lasting : Lasting identity P) : HelperKeeps P (helperSendAsync : Helper (Host τ)) := by
  intro r1 r2 r3 r4 r5 mem host h
  unfold helperSendAsync AsyncQueue.push
  split
  · exact h
  dsimp only
  split
  · exact h
  split
  · exact h
  · exact lasting.queues _ _ _ h

theorem helpers_keep (lasting : Lasting ctx.identity P) :
    ∀ desc ∈ registered link hal provider reader ctx, HelperKeeps P desc.func := by
  simp only [registered, List.forall_mem_cons, List.not_mem_nil, false_imp_iff, implies_true, and_true]
  refine ⟨?_, ?_, ?_, ?_, ?_, ?_, ?_, helperSend_keeps lasting, helperSendRecv_keeps lasting, ?_, ?_, ?_, ?_, ?_, ?_, ?_,
    helperSendAsync_keeps lasting⟩
  all_goals intro r1 r2 r3 r4 r5 mem host h
  all_goals
    dsimp only [helperI2cRead, helperI2cWrite, helperI2cWriteRead, helperSpiTransfer, helperGpioRead, helperGpioWrite,
      helperAdcRead, helperMapLookupElem, helperMapUpdateElem, helperGetTime, helperGetBatteryMv, helperDelayUs,
      helperSetNextWake, helperBpfTracePrintk]
    repeat' split
    all_goals exact h

theorem interpret_meets {helpers : List (HelperDescriptor (Host τ))} (kept : ∀ desc ∈ helpers, HelperKeeps P desc.func)
    (program : LoadedProgram) (mapStorage : MapStorage) (ctx : SondeContext) :
    Preserves (fun device => P device.log device.mail) (interpret interpreter helpers program mapStorage ctx) := by
  refine .ite (fun _ => ⟨fun device h => ?_⟩) fun _ => .pure fun _ h => h
  have after := interpreter.through_helpers kept program.bytecode
    mapStorage.mapPointers (loadDefs program mapStorage) ctx defaultInstructionBudget device.mem device.host h
  split
  · rename_i equal
    exact (Prod.mk.inj equal).2 ▸ after
  · rename_i equal
    exact (Prod.mk.inj equal).2 ▸ after

theorem stays (fixed : Fixes (fun device => (device.log, device.mail)) m) :
    Preserves (fun device => P device.log device.mail) m :=
  Fixes.meets (P := fun box : Log × Mail => P box.1 box.2) fixed

theorem stays_quietly (quiet : Quiet m) : Preserves (fun device => P device.log device.mail) m :=
  stays (Fixes.comp quiet Prod.snd)

theorem executeBpf_meets (lasting : Lasting identity P) (command : Command) (commandReceivedAt batteryMv : Nat)
    (program : LoadedProgram) : Preserves (fun device : Device τ => P device.log device.mail)
      (executeBpf platform provider reader interpreter space identity command commandReceivedAt batteryMv program) := by
  refine .bind (stays_quietly (ask_quiet _)) fun now => ?_
  refine .bind (stays_quietly (.read _)) fun sleepMgr => ?_
  refine .bind (stays_quietly (.read _)) fun mapStorage => ?_
  exact interpret_meets (helpers_keep lasting) _ _ _

theorem executeAndSleep_meets (lasting : Lasting identity P) (command : Command) (commandReceivedAt : Nat)
    (installed resident : Option LoadedProgram) : Preserves (fun device : Device τ => P device.log device.mail)
      (executeAndSleep platform provider reader interpreter space board identity command commandReceivedAt installed
        resident) := by
  have sleeps : Fixes (fun device : Device τ => (device.log, device.mail))
      (captureBatteryThenSleep platform board : Cycle τ Unit) := Fixes.comp captureBatteryThenSleep_quiet Prod.snd
  exact executeAndSleep_preserves stays_quietly
    (fun program _ => stays (prepareMaps_fixes sleeps (fun _ _ _ => rfl) program _)) (executeBpf_meets lasting _ _)
    installed resident

end

end

end Sonde.Node
