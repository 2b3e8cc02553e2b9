import Sonde.Bpf.Interpreter
import Sonde.Node.MapStorage

/-!
# BPF helpers and interpreter

A helper is a function of its five registers, of the memory and of the `Host`, which holds what a `DispatchContext`
points to and a helper may change. The rest of the context is fixed during a run and stands in `Dispatch`.
-/

namespace Sonde.Node
open Lib Protocol
open Bpf (Mem Helper HelperDescriptor)

inductive WakeReason where
  | scheduled
  | early
  | programUpdate

def WakeReason.code : WakeReason → Nat
  | .scheduled => 0
  | .early => 1
  | .programUpdate => 2

def minSleepIntervalS : Nat := 1

structure SleepManager where
  baseIntervalS : Nat
  nextWakeOverrideS : Option Nat
  wakeReason : WakeReason

def SleepManager.new (baseIntervalS : Nat) (wakeReason : WakeReason) : SleepManager := ⟨baseIntervalS, none, wakeReason⟩

def SleepManager.effectiveSleepS (sleepMgr : SleepManager) : Nat :=
  max (sleepMgr.nextWakeOverrideS.elim sleepMgr.baseIntervalS fun s => min s sleepMgr.baseIntervalS) minSleepIntervalS

def SleepManager.willWakeEarly (sleepMgr : SleepManager) : Bool :=
  sleepMgr.nextWakeOverrideS.elim false (· < sleepMgr.baseIntervalS)

def maxMessages : Nat := 10

abbrev AsyncQueue := List Bytes

def AsyncQueue.push (queue : AsyncQueue) (blob : Bytes) : BitVec 64 × AsyncQueue :=
  if blob.length > maxAppDataBlobSize then (-2, queue)
  else if queue.length ≥ maxMessages then (-1, queue)
  else (0, queue ++ [blob])

def AsyncQueue.singleForPiggyback (queue : AsyncQueue) (wakeBudget : Nat) : Option Bytes :=
  match queue with
  | [blob] => if blob.length ≤ wakeBudget ∧ blob.length ≤ maxAppDataBlobSize then some blob else none
  | _ => none

inductive HalCall where
  | i2cRead (handle : BitVec 32) (len : Nat)
  | i2cWrite (handle : BitVec 32) (data : Bytes)
  | i2cWriteRead (handle : BitVec 32) (data : Bytes) (len : Nat)
  | spiTransfer (handle : BitVec 32) (data : Bytes)
  | gpioRead (pin : BitVec 32)
  | gpioWrite (pin value : BitVec 32)
  | adcRead (channel : BitVec 32)

/-- A call returns its `i32` and the bytes that it puts into the buffer. -/
structure Hal (τ : Type) where
  call : HalCall → τ → (BitVec 32 × Bytes) × τ
  adcReadDiagnostics : BitVec 32 → τ → (BitVec 32 × BitVec 32) × τ
  enterActiveGpioState : τ → τ
  enterIdleGpioState : τ → τ

inductive ProgramClass where
  | resident
  | ephemeral
  deriving DecidableEq, Repr

/-- `pushed` holds the blobs that the queue has taken in this cycle, oldest first. -/
structure Host (τ : Type) where
  radio : Radio τ
  sleepMgr : SleepManager
  asyncQueue : AsyncQueue
  traceLog : List Bytes
  pushed : List Bytes

structure Dispatch where
  identity : NodeIdentity
  programClass : ProgramClass
  gatewayTimestampMs : BitVec 64
  commandReceivedAtMs : Nat
  batteryMv : Nat
  maps : List MapInstance
  mapPtrIndex : List (BitVec 64 × Nat)

-- The index stays empty when a pointer occurs twice or there are more than `MAX_MAPS` of them.
def mapPtrIndex (ptrs : List (BitVec 64)) : List (BitVec 64 × Nat) :=
  if ptrs.length ≤ maxMaps ∧ ptrs.Nodup then ptrs.zipIdx else []

def sendRecvTimeoutMs : Nat := 200
def maxSendRecvTimeoutMs : Nat := 5000
def maxBusTransferLen : Nat := 4096
def maxDelayUs : Nat := 1000000
def maxTraceEntries : Nat := 64

section
variable {τ : Type} (link : Link τ) (hal : Hal τ) (provider : Provider) (reader : Cbor.Reader) (ctx : Dispatch)

def Host.setWorld (host : Host τ) (world : τ) : Host τ := { host with radio := { host.radio with world := world } }

-- `(-1i64) as u64`
def failed : BitVec 64 := -1

-- `r as usize`, and `r` cast to a pointer: an address has 32 bits on the node's targets.
def usize (r : BitVec 64) : BitVec 64 := (r.setWidth 32).setWidth 64

-- Call the hardware; the at most `len` bytes that it returns go to `dest`.
def callHal (call : HalCall) (dest : BitVec 64) (len : Nat) (mem : Mem) (host : Host τ) : BitVec 64 × Mem × Host τ :=
  let ((rc, data), world) := hal.call call host.radio.world
  (rc.signExtend 64, mem.write dest (data.take len), host.setWorld world)

def badBuffer (ptr len : BitVec 64) : Bool := ptr = 0 || len = 0 || len.toNat > maxBusTransferLen

def helperI2cRead : Helper (Host τ) := fun r1 r2 r3 _ _ mem host =>
  if badBuffer (usize r2) (usize r3) then (failed, mem, host)
  else callHal hal (.i2cRead (r1.setWidth 32) (usize r3).toNat) (usize r2) (usize r3).toNat mem host

def helperI2cWrite : Helper (Host τ) := fun r1 r2 r3 _ _ mem host =>
  if badBuffer (usize r2) (usize r3) then (failed, mem, host)
  else callHal hal (.i2cWrite (r1.setWidth 32) (mem.slice (usize r2) (usize r3).toNat)) 0 0 mem host

def helperI2cWriteRead : Helper (Host τ) := fun r1 r2 r3 r4 r5 mem host =>
  if badBuffer (usize r2) (usize r3) || badBuffer (usize r4) (usize r5) then (failed, mem, host)
  else
    let readLen := (usize r5).toNat
    callHal hal (.i2cWriteRead (r1.setWidth 32) (mem.slice (usize r2) (usize r3).toNat) readLen) (usize r4) readLen mem host

def helperSpiTransfer : Helper (Host τ) := fun r1 r2 r3 _ _ mem host =>
  if badBuffer (usize r2) (usize r3) then (failed, mem, host)
  else
    let len := (usize r3).toNat
    callHal hal (.spiTransfer (r1.setWidth 32) (mem.slice (usize r2) len)) (usize r2) len mem host

def helperGpioRead : Helper (Host τ) := fun r1 _ _ _ _ mem host => callHal hal (.gpioRead (r1.setWidth 32)) 0 0 mem host

def helperGpioWrite : Helper (Host τ) := fun r1 r2 _ _ _ mem host =>
  callHal hal (.gpioWrite (r1.setWidth 32) (r2.setWidth 32)) 0 0 mem host

def helperAdcRead : Helper (Host τ) := fun r1 _ _ _ _ mem host => callHal hal (.adcRead (r1.setWidth 32)) 0 0 mem host

def helperSend : Helper (Host τ) := fun r1 r2 _ _ _ mem host =>
  if usize r1 = 0 ∨ (usize r2).toNat > maxAppDataBlobSize then (failed, mem, host)
  else
    match sendAppData link provider ctx.identity (mem.slice (usize r1) (usize r2).toNat) host.radio with
    | (.ok (), radio) => (0, mem, { host with radio := radio })
    | (.error _, radio) => (failed, mem, { host with radio := radio })

def sendRecvTimeout (r5 : BitVec 64) : Nat :=
  if r5 = 0 then sendRecvTimeoutMs else min (r5.setWidth 32).toNat maxSendRecvTimeoutMs

def helperSendRecv : Helper (Host τ) := fun r1 r2 r3 r4 r5 mem host =>
  if usize r1 = 0 ∨ (usize r2).toNat > maxAppDataBlobSize ∨ usize r3 = 0 ∨ usize r4 = 0 then (failed, mem, host)
  else
    let blob := mem.slice (usize r1) (usize r2).toNat
    match sendRecvAppData link provider reader ctx.identity blob (sendRecvTimeout r5) host.radio with
    | (.error _, radio) => (failed, mem, { host with radio := radio })
    | (.ok reply, radio) =>
      if reply.length > (usize r4).toNat then (failed, mem, { host with radio := radio })
      else (BitVec.ofNat 64 reply.length, mem.write (usize r3) reply, { host with radio := radio })

def helperSendAsync : Helper (Host τ) := fun r1 r2 _ _ _ mem host =>
  if r2.toNat ≥ 2 ^ 32 ∨ usize r1 = 0 ∨ (usize r2).toNat > maxAppDataBlobSize then (-2, mem, host)
  else
    let blob := mem.slice (usize r1) (usize r2).toNat
    let (rc, queue) := host.asyncQueue.push blob
    (rc, mem, { host with asyncQueue := queue, pushed := if rc = 0 then host.pushed ++ [blob] else host.pushed })

def Dispatch.map? (ptr : BitVec 64) : Option MapInstance := do
  let entry ← ctx.mapPtrIndex.find? (·.1 = ptr)
  ctx.maps[entry.2]?

def helperMapLookupElem : Helper (Host τ) := fun r1 r2 _ _ _ mem host =>
  if usize r2 = 0 then (0, mem, host)
  else (((ctx.map? r1).bind fun map => map.lookup (mem.load (usize r2) 4).toNat).getD 0, mem, host)

def helperMapUpdateElem : Helper (Host τ) := fun r1 r2 r3 _ _ mem host =>
  if ctx.programClass = .ephemeral then (failed, mem, host)
  else if usize r2 = 0 ∨ usize r3 = 0 then (failed, mem, host)
  else
    match ctx.map? r1 with
    | none => (failed, mem, host)
    | some map =>
      match map.update (mem.load (usize r2) 4).toNat (mem.slice (usize r3) map.mapDef.valueSize.toNat) mem with
      | (.ok (), mem') => (0, mem', host)
      | (.error _, mem') => (failed, mem', host)

def helperGetTime : Helper (Host τ) := fun _ _ _ _ _ mem host =>
  let (now, world) := link.elapsedMs host.radio.world
  (BitVec.ofNat 64 (saturatingAdd ctx.gatewayTimestampMs.toNat (now - ctx.commandReceivedAtMs)), mem, host.setWorld world)

def helperGetBatteryMv : Helper (Host τ) := fun _ _ _ _ _ mem host =>
  (BitVec.ofNat 64 (min ctx.batteryMv (2 ^ 16 - 1)), mem, host)

def helperDelayUs : Helper (Host τ) := fun r1 _ _ _ _ mem host =>
  if r1.toNat > maxDelayUs then (failed, mem, host)
  else if r1 = 0 then (0, mem, host)
  else (0, mem, host.setWorld (link.delayUs r1.toNat host.radio.world))

def helperSetNextWake : Helper (Host τ) := fun r1 _ _ _ _ mem host =>
  if ctx.programClass = .ephemeral then (failed, mem, host)
  else if r1.toNat ≥ 2 ^ 32 then (failed, mem, host)
  else (0, mem, { host with sleepMgr := { host.sleepMgr with nextWakeOverrideS := some r1.toNat } })

def isUtf8 (bytes : Bytes) : Bool := (ByteArray.mk (bytes.map UInt8.ofBitVec).toArray).validateUTF8

def helperBpfTracePrintk : Helper (Host τ) := fun r1 r2 _ _ _ mem host =>
  if usize r1 = 0 ∨ usize r2 = 0 ∨ (usize r2).toNat > 256 then (failed, mem, host)
  else
    let bytes := mem.slice (usize r1) (usize r2).toNat
    if isUtf8 bytes then
      if host.traceLog.length < maxTraceEntries then (0, mem, { host with traceLog := host.traceLog ++ [bytes] })
      else (0, mem, host)
    else (failed, mem, host)

/-- The helpers as `register_all` registers them; only `map_lookup_elem` returns a pointer into a map. -/
def registered : List (HelperDescriptor (Host τ)) :=
  [⟨1, helperI2cRead hal, .scalar⟩, ⟨2, helperI2cWrite hal, .scalar⟩, ⟨3, helperI2cWriteRead hal, .scalar⟩,
    ⟨4, helperSpiTransfer hal, .scalar⟩, ⟨5, helperGpioRead hal, .scalar⟩, ⟨6, helperGpioWrite hal, .scalar⟩,
    ⟨7, helperAdcRead hal, .scalar⟩, ⟨8, helperSend link provider ctx, .scalar⟩,
    ⟨9, helperSendRecv link provider reader ctx, .scalar⟩, ⟨10, helperMapLookupElem ctx, .mapValueOrNull 1⟩,
    ⟨11, helperMapUpdateElem ctx, .scalar⟩, ⟨12, helperGetTime link ctx, .scalar⟩,
    ⟨13, helperGetBatteryMv ctx, .scalar⟩, ⟨14, helperDelayUs link, .scalar⟩, ⟨15, helperSetNextWake ctx, .scalar⟩,
    ⟨16, helperBpfTracePrintk, .scalar⟩, ⟨17, helperSendAsync, .scalar⟩]

end

end Sonde.Node
