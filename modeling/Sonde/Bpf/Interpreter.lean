import Sonde.Lib.Program
import Sonde.Bpf.Alu
import Sonde.Bpf.Memory

/-!
# The interpreter of `sonde-bpf`

`iterate` is one turn of the loop in `execute_program`. The address space is explicit: the buffers
that the source reaches through raw pointers are ranges of `Mem`, and every dereference goes through
`readMem` or `writeMem`, which also record it in `State.accesses`.

Plain `+`, `-` and `+=` panic or wrap as `Env.overflowChecks` says, which is what the build profile decides in Rust.
`Env.pointerWidth` is the width of `isize`. Only `check_jump` depends on it: the other `usize` values are a `pc`, a
length, or an offset into the stack.
-/

namespace Sonde.Bpf
open Lib Program

inductive HelperReturn where
  | scalar
  | mapValueOrNull (mapArg : BitVec 8)

abbrev Helper (ω : Type) := BitVec 64 → BitVec 64 → BitVec 64 → BitVec 64 → BitVec 64 → Mem → ω → BitVec 64 × Mem × ω

structure HelperDescriptor (ω : Type) where
  id : BitVec 32
  func : Helper ω
  ret : HelperReturn

structure MapRegion where
  relocatedPtr : BitVec 64
  keySize : BitVec 32
  valueSize : BitVec 32
  dataStart : BitVec 64
  dataEnd : BitVec 64

structure ContextPointerField where
  offset : BitVec 16
  region : Region

structure Env (ω : Type) where
  prog : List (BitVec 8)
  ctxBase : BitVec 64
  ctxLen : Nat
  helpers : List (HelperDescriptor ω)
  maps : List MapRegion
  readOnlyCtx : Bool
  instructionBudget : BitVec 64
  ctxPtrs : List ContextPointerField
  stackBase : BitVec 64
  overflowChecks : Bool
  pointerWidth : Nat := 64

def Env.numInsns {ω : Type} (env : Env ω) : Nat := env.prog.length / insnSize

def Env.stackRegion {ω : Type} (env : Env ω) : Region := ⟨.stack, env.stackBase, env.stackBase + BitVec.ofNat 64 stackSize⟩

def Env.ctxRegion {ω : Type} (env : Env ω) : Region :=
  ⟨if env.readOnlyCtx then .context else .memory, env.ctxBase, env.ctxBase + BitVec.ofNat 64 env.ctxLen⟩

def maxSpillSlots : Nat := 32

structure SpillEntry where
  stackOffset : BitVec 16
  region : Region
  deriving DecidableEq, Repr

/-- `bitmap slot` is the bit of the 8-byte stack slot `slot`; `entries` holds the first `count` entries. -/
structure SpillTracker where
  bitmap : Nat → Bool
  entries : List SpillEntry

namespace SpillTracker

def new : SpillTracker := ⟨fun _ => false, []⟩

def setSlot (tracker : SpillTracker) (slot : Nat) (bit : Bool) : SpillTracker :=
  { tracker with bitmap := Function.update tracker.bitmap slot bit }

def setRegion (offset : BitVec 16) (region : Region) : List SpillEntry → List SpillEntry
  | [] => []
  | entry :: rest =>
    if entry.stackOffset = offset then { entry with region := region } :: rest
    else entry :: setRegion offset region rest

def recordSpill (tracker : SpillTracker) (stackBase addr : BitVec 64) (region : Region) : SpillTracker :=
  let offset := addr - stackBase
  let slot := offset.toNat / 8
  if slot ≥ stackSize / 8 then tracker
  else
    let offset16 := offset.setWidth 16
    if tracker.entries.any (·.stackOffset = offset16) then
      { tracker.setSlot slot true with entries := setRegion offset16 region tracker.entries }
    else if tracker.entries.length < maxSpillSlots then
      { tracker.setSlot slot true with entries := tracker.entries ++ [⟨offset16, region⟩] }
    else
      -- The table is full: the bit is set and cleared again, so the reload becomes a scalar.
      tracker.setSlot slot false

def checkRestore (tracker : SpillTracker) (stackBase addr : BitVec 64) : Option Region :=
  let offset := addr - stackBase
  let slot := offset.toNat / 8
  if slot ≥ stackSize / 8 then none
  else if tracker.bitmap slot = false then none
  else (tracker.entries.find? (·.stackOffset = offset.setWidth 16)).map (·.region)

def invalidate (tracker : SpillTracker) (stackBase addr : BitVec 64) (len : Nat) : SpillTracker :=
  let offsetStart := (addr - stackBase).toNat
  let offsetEnd := min (offsetStart + len) (2 ^ 64 - 1)
  let firstSlot := offsetStart / 8
  let lastSlot := if offsetEnd = 0 then 0 else (offsetEnd - 1) / 8
  { tracker with
    bitmap := fun slot => if firstSlot ≤ slot ∧ slot ≤ lastSlot ∧ slot < stackSize / 8 then false else tracker.bitmap slot }

end SpillTracker

structure CallFrame where
  saved : Fin 4 → TaggedReg
  returnPc : Nat
  frameSize : BitVec 64

structure Access where
  write : Bool
  addr : BitVec 64
  len : Nat
  deriving DecidableEq, Repr

abbrev Reg := Fin 11

/-- The local variables of the loop. `callFrames` holds the `frame_idx` frames in use, innermost first. -/
structure State (ω : Type) where
  reg : Reg → TaggedReg
  spillTracker : SpillTracker
  callFrames : List CallFrame
  pc : Nat
  insnCount : BitVec 64
  mem : Mem
  host : ω
  accesses : List Access

abbrev M (ω α : Type) := Program (State ω) Stop α

variable {ω : Type}

def err {α : Type} (e : BpfError) : M ω α := stop (.err e)

def panicked {α : Type} : M ω α := stop .panicked

def getReg (r : Reg) : M ω TaggedReg := read fun s => s.reg r

def setReg (r : Reg) (v : TaggedReg) : M ω Unit := update fun s => { s with reg := Function.update s.reg r v }

def getPc : M ω Nat := read State.pc

def setPc (pc : Nat) : M ω Unit := update fun s => { s with pc := pc }

def modifySpill (f : SpillTracker → SpillTracker) : M ω Unit := update fun s => { s with spillTracker := f s.spillTracker }

def readMem (addr : BitVec 64) (len : Nat) : M ω (BitVec 64) := fun s =>
  (.ok (s.mem.load addr len), { s with accesses := ⟨false, addr, len⟩ :: s.accesses })

def writeMem (addr : BitVec 64) (len : Nat) (val : BitVec 64) : M ω Unit :=
  update fun s => { s with mem := s.mem.store addr len val, accesses := ⟨true, addr, len⟩ :: s.accesses }

def addU64 (env : Env ω) (a b : BitVec 64) : M ω (BitVec 64) :=
  if env.overflowChecks ∧ 2 ^ 64 ≤ a.toNat + b.toNat then panicked else pure (a + b)

def subU64 (env : Env ω) (a b : BitVec 64) : M ω (BitVec 64) :=
  if env.overflowChecks ∧ a.toNat < b.toNat then panicked else pure (a - b)

-- A program has at most `isize::MAX` bytes, so the target of a jump inside it does not overflow. The sum that wraps is
-- negative.
def jumpError (env : Env ω) (pc : Nat) (target : Int) : Stop :=
  if env.overflowChecks ∧ 2 ^ (env.pointerWidth - 1) ≤ target then .panicked else .err (.outOfBounds (pc - 1))

def checkJump (env : Env ω) (pc : Nat) (offset : Int) (numInsns : Nat) : Except Stop Nat :=
  let target := (pc : Int) + offset
  if target < 0 ∨ (numInsns : Int) ≤ target then .error (jumpError env pc target) else .ok target.toNat

def TaggedReg.address (reg : TaggedReg) (off : BitVec 16) : BitVec 64 := reg.value + off.signExtend 64

def checkAccess (baseReg : TaggedReg) (off : BitVec 16) (len pc : Nat) : Except Stop (Region × BitVec 64) :=
  match baseReg.region with
  | none => .error (.err (.nonDereferenceableAccess pc))
  | some region =>
    if region.tag.isDescriptor then .error (.err (.nonDereferenceableAccess pc))
    else
      let addr := baseReg.address off
      if 2 ^ 64 ≤ addr.toNat + len then .error (.err (.memoryAccessViolation pc addr len))
      else if addr < region.base ∨ region.endAddr < addr + BitVec.ofNat 64 len then
        .error (.err (.memoryAccessViolation pc addr len))
      else .ok (region, addr)

theorem checkAccess_ok {baseReg : TaggedReg} {off : BitVec 16} {len pc : Nat} {region : Region} {addr : BitVec 64}
    (ok : checkAccess baseReg off len pc = .ok (region, addr)) :
    baseReg.region = some region ∧ addr = baseReg.address off ∧ region.tag.isDescriptor = false ∧
      region.base ≤ addr ∧ addr.toNat + len ≤ region.endAddr.toNat := by
  unfold checkAccess at ok
  cases pointer : baseReg.region with
  | none => simp [pointer] at ok
  | some found =>
    simp only [pointer] at ok
    split at ok
    · cases ok
    split at ok
    · cases ok
    split at ok
    · cases ok
    rename_i noDescriptor noOverflow inBounds
    obtain ⟨rfl, rfl⟩ := ok
    refine ⟨rfl, rfl, by simpa using noDescriptor, ?_, ?_⟩
    · bv_omega
    · bv_omega

def memLoad (size : Size) (baseReg : TaggedReg) (off : BitVec 16) (pc : Nat) : M ω (BitVec 64) := do
  let (_, addr) ← ofExcept (checkAccess baseReg off size.bytes pc)
  readMem addr size.bytes

def memLoadSignExtend (size : Size) (baseReg : TaggedReg) (off : BitVec 16) (pc : Nat) : M ω (BitVec 64) := do
  let (_, addr) ← ofExcept (checkAccess baseReg off size.bytes pc)
  let val ← readMem addr size.bytes
  return (val.setWidth (8 * size.bytes)).signExtend 64

def memStore (size : Size) (baseReg : TaggedReg) (off : BitVec 16) (val : BitVec 64) (pc : Nat) : M ω Unit := do
  let (region, addr) ← ofExcept (checkAccess baseReg off size.bytes pc)
  onlyIf (region.tag ≠ .context) (writeMem addr size.bytes val)

def memAtomic (size : Size) (opc : BitVec 8) (baseReg : TaggedReg) (off : BitVec 16) (src : Reg)
    (op : BitVec 32) (pc : Nat) : M ω Unit := do
  let (region, addr) ← ofExcept (checkAccess baseReg off size.bytes pc)
  let readOnly : Bool := region.tag = .context
  let fetch : Bool := op &&& bpfAtomicFetch ≠ 0
  let baseOp := op &&& ~~~bpfAtomicFetch
  let old ← readMem addr size.bytes
  let srcVal := (← getReg src).value
  -- The read-modify-write operations return the old value only on request.
  let rmw (new : BitVec 64) : M ω Unit := do
    onlyIf (¬readOnly) (writeMem addr size.bytes new)
    onlyIf fetch (setReg src (.scalar old))
  if baseOp = bpfAtomicAdd then rmw (old + srcVal)
  else if baseOp = bpfAtomicOr then rmw (old ||| srcVal)
  else if baseOp = bpfAtomicAnd then rmw (old &&& srcVal)
  else if baseOp = bpfAtomicXor then rmw (old ^^^ srcVal)
  else if baseOp = 0xe0 then do
    onlyIf (¬readOnly) (writeMem addr size.bytes srcVal)
    setReg src (.scalar old)
  else if baseOp = 0xf0 then do
    let r0 := (← getReg 0).value
    onlyIf (¬readOnly ∧ old = (r0.setWidth (8 * size.bytes)).setWidth 64) (writeMem addr size.bytes srcVal)
    setReg 0 (.scalar old)
  else err (.unknownOpcode pc opc)

def memAtomic32 (baseReg : TaggedReg) (off : BitVec 16) (src : Reg) (op : BitVec 32) (pc : Nat) : M ω Unit :=
  memAtomic .w Opcode.stWAtomic.byte baseReg off src op pc

def memAtomic64 (baseReg : TaggedReg) (off : BitVec 16) (src : Reg) (op : BitVec 32) (pc : Nat) : M ω Unit :=
  memAtomic .dw Opcode.stDwAtomic.byte baseReg off src op pc

/-! ## The arms of the loop -/

section
variable (env : Env ω)

-- `insn_count += 1` and the comparison with the budget.
def charge (pc : Nat) : M ω Unit := do
  let count ← addU64 env (← read State.insnCount) 1
  update fun s => { s with insnCount := count }
  onlyIf (env.instructionBudget < count) (err (.instructionBudgetExceeded pc))

def mapAt (pc : Nat) (index : BitVec 32) : Except Stop (Nat × MapRegion) :=
  if index.toInt < 0 then .error (.err (.invalidMapIndex (pc - 2) index))
  else
    match env.maps[index.toNat]? with
    | none => .error (.err (.invalidMapIndex (pc - 2) index))
    | some map => .ok (index.toNat, map)

-- Direct map value relocation: entry 0 of the map plus a constant offset.
def mapValueAt (pc : Nat) (map : MapRegion) (offset : BitVec 32) : Except Stop TaggedReg :=
  let valueSize := map.valueSize.toNat
  let valueBase := map.dataStart.toNat + map.keySize.toNat
  let valueAddr : Int := valueBase + offset.toInt
  let valueEnd := valueBase + valueSize
  let base := BitVec.ofNat 64 valueBase
  if 2 ^ 64 ≤ valueBase then
    .error (.err (.memoryAccessViolation (pc - 2) map.dataStart map.keySize.toNat))
  else if valueAddr < 0 ∨ 2 ^ 64 ≤ valueAddr then
    .error (.err (.memoryAccessViolation (pc - 2) base valueSize))
  else if 2 ^ 64 ≤ valueEnd then
    .error (.err (.memoryAccessViolation (pc - 2) base valueSize))
  else if valueBase < map.dataStart.toNat ∨ map.dataEnd.toNat < valueEnd then
    .error (.err (.memoryAccessViolation (pc - 2) base valueSize))
  else if valueAddr < valueBase ∨ (valueEnd : Int) ≤ valueAddr then
    .error (.err (.memoryAccessViolation (pc - 2) (BitVec.ofInt 64 valueAddr) 0))
  else
    .ok ⟨BitVec.ofInt 64 valueAddr, some ⟨.mapValue map.valueSize, base, BitVec.ofNat 64 valueEnd⟩⟩

def ldDwImm (insn : Insn) (dst src : Reg) : M ω Unit := do
  let pc ← getPc
  if pc ≥ env.numInsns then err (.outOfBounds (pc - 1))
  else
    match getInsn env.prog pc with
    | none => panicked
    | some next => do
      setPc (pc + 1)
      charge env pc
      let pc := pc + 1
      if src = 0 then
        setReg dst (.scalar (insn.imm.setWidth 64 ||| (next.imm.signExtend 64 <<< 32)))
      else if src = 1 then do
        let (idx, map) ← ofExcept (mapAt env pc insn.imm)
        setReg dst ⟨map.relocatedPtr, some ⟨.mapDescriptor (BitVec.ofNat 32 idx), 0, 0⟩⟩
      else if src = 6 then do
        let (_, map) ← ofExcept (mapAt env pc insn.imm)
        let value ← ofExcept (mapValueAt pc map next.imm)
        setReg dst value
      else err (.unknownOpcode (pc - 2) insn.opc)

def ldReg (size : Size) (insn : Insn) (dst src : Reg) (pc : Nat) : M ω Unit := do
  let base ← getReg src
  let val ← memLoad size base insn.off (pc - 1)
  setReg dst (.scalar val)

def restoredRegion (tracker : SpillTracker) (base : TaggedReg) (off : BitVec 16) : Option Region :=
  let addr := base.address off
  match base.region with
  | none => none
  | some region =>
    match region.tag with
    | .stack => tracker.checkRestore env.stackBase addr
    | .context | .memory =>
      let ctxOff := addr - env.ctxBase
      if ctxOff + 8 ≤ BitVec.ofNat 64 env.ctxLen then
        (env.ctxPtrs.find? fun field => ctxOff = field.offset.setWidth 64).map (·.region)
      else none
    | _ => none

def ldDwReg (insn : Insn) (dst src : Reg) (pc : Nat) : M ω Unit := do
  let base ← getReg src
  let val ← memLoad .dw base insn.off (pc - 1)
  let region ← read fun s => restoredRegion env s.spillTracker base insn.off
  setReg dst ⟨val, region⟩

def ldsxReg (size : Size) (insn : Insn) (dst src : Reg) (pc : Nat) : M ω Unit := do
  let base ← getReg src
  let val ← memLoadSignExtend size base insn.off (pc - 1)
  setReg dst (.scalar val)

def invalidateStack (size : Size) (base : TaggedReg) (off : BitVec 16) : M ω Unit :=
  onlyIf base.isStack (modifySpill fun tracker => tracker.invalidate env.stackBase (base.address off) size.bytes)

def stImm (size : Size) (insn : Insn) (dst : Reg) (pc : Nat) : M ω Unit := do
  let base ← getReg dst
  memStore size base insn.off (insn.imm.signExtend 64) (pc - 1)
  invalidateStack env size base insn.off

def stReg (size : Size) (insn : Insn) (dst src : Reg) (pc : Nat) : M ω Unit := do
  let base ← getReg dst
  let value := (← getReg src).value
  memStore size base insn.off value (pc - 1)
  invalidateStack env size base insn.off

-- An aligned 64-bit store of a pointer to the stack is a spill.
def stDwReg (insn : Insn) (dst src : Reg) (pc : Nat) : M ω Unit := do
  let base ← getReg dst
  let value ← getReg src
  memStore .dw base insn.off value.value (pc - 1)
  let addr := base.address insn.off
  match value.region with
  | some region =>
    if (addr - env.stackBase).toNat % 8 = 0 then
      onlyIf base.isStack (modifySpill fun tracker => tracker.recordSpill env.stackBase addr region)
    else invalidateStack env .dw base insn.off
  | none => invalidateStack env .dw base insn.off

def stWAtomic (insn : Insn) (dst src : Reg) (pc : Nat) : M ω Unit := do
  let base ← getReg dst
  memAtomic32 base insn.off src insn.imm (pc - 1)
  invalidateStack env .w base insn.off

def stDwAtomic (insn : Insn) (dst src : Reg) (pc : Nat) : M ω Unit := do
  let base ← getReg dst
  memAtomic64 base insn.off src insn.imm (pc - 1)
  invalidateStack env .dw base insn.off

def operand (source : Source) (insn : Insn) (src : Reg) : M ω TaggedReg :=
  match source with
  | .imm => pure (.scalar (insn.imm.signExtend 64))
  | .reg => getReg src

-- A scalar result, or `UnknownOpcode` for an encoding that the arm refuses.
def setScalar (insn : Insn) (dst : Reg) (pc : Nat) (result : Option (BitVec 64)) : M ω Unit :=
  match result with
  | some val => setReg dst (.scalar val)
  | none => err (.unknownOpcode (pc - 1) insn.opc)

def execAlu32 (op : AluOp) (source : Source) (insn : Insn) (dst src : Reg) (pc : Nat) : M ω Unit := do
  let d ← getReg dst
  let b ← operand source insn src
  setScalar insn dst pc ((alu32 op source insn.off d.value b.value).map (·.setWidth 64))

def execSwap (swap : Bool) (insn : Insn) (dst : Reg) (pc : Nat) : M ω Unit := do
  let d ← getReg dst
  setScalar insn dst pc (byteSwap swap insn.imm d.value)

def execAlu64 (op : AluOp) (source : Source) (insn : Insn) (dst src : Reg) (pc : Nat) : M ω Unit := do
  let d ← getReg dst
  let b ← operand source insn src
  let result ← ofExcept (alu64 op source insn pc d b)
  setReg dst result

def jump (pc : Nat) (offset : Int) : M ω Unit := do
  let target ← ofExcept (checkJump env pc offset env.numInsns)
  setPc target

def execJmp (op : JmpOp) (source : Source) (insn : Insn) (dst src : Reg) (pc : Nat) : M ω Unit := do
  let d ← getReg dst
  let b ← operand source insn src
  onlyIf (op.holds d.value b.value) (jump env pc insn.off.toInt)

def execJmp32 (op : JmpOp) (source : Source) (insn : Insn) (dst src : Reg) (pc : Nat) : M ω Unit := do
  let d ← getReg dst
  let b ← operand source insn src
  onlyIf (op.holds (d.value.setWidth 32) (b.value.setWidth 32)) (jump env pc insn.off.toInt)

def callFunc (func : Helper ω) : M ω (BitVec 64) := fun s =>
  let (result, mem, host) := func (s.reg 1).value (s.reg 2).value (s.reg 3).value (s.reg 4).value
    (s.reg 5).value s.mem s.host
  (.ok result, { s with mem := mem, host := host })

def mapValueResult (pc : Nat) (mapArg : BitVec 8) (arg : TaggedReg) (result : BitVec 64) : Except Stop TaggedReg :=
  if result = 0 then .ok (.scalar 0)
  else
    match arg.region with
    | some ⟨.mapDescriptor mapIndex, _, _⟩ =>
      match env.maps[mapIndex.toNat]? with
      | none => .error .panicked
      | some map =>
        let size := map.valueSize.toNat
        let resultEnd := result.toNat + size
        if 2 ^ 64 ≤ resultEnd then .error (.err (.memoryAccessViolation (pc - 1) result size))
        else if result < map.dataStart ∨ map.dataEnd.toNat < resultEnd then
          .error (.err (.memoryAccessViolation (pc - 1) result size))
        else .ok ⟨result, some ⟨.mapValue map.valueSize, result, BitVec.ofNat 64 resultEnd⟩⟩
    | _ => .error (.err (.invalidHelperArgument (pc - 1) mapArg))

def helperResult (pc : Nat) (ret : HelperReturn) (result : BitVec 64) : M ω TaggedReg :=
  match ret with
  | .scalar => pure (.scalar result)
  | .mapValueOrNull mapArg =>
    if h : 1 ≤ mapArg.toNat ∧ mapArg.toNat ≤ 5 then do
      let arg ← getReg ⟨mapArg.toNat, by omega⟩
      ofExcept (mapValueResult env pc mapArg arg result)
    else err (.invalidHelperArgument (pc - 1) mapArg)

-- The values of r1 to r5 survive a helper call, their tags do not.
def clobber : M ω Unit :=
  update fun s => { s with reg := fun r => if 1 ≤ r.val ∧ r.val ≤ 5 then .scalar (s.reg r).value else s.reg r }

def callHelper (insn : Insn) (pc : Nat) : M ω Unit := do
  match env.helpers.find? (·.id = insn.imm) with
  | none => err (.unknownHelper (pc - 1) insn.imm)
  | some desc =>
    let result ← callFunc desc.func
    let r0 ← helperResult env pc desc.ret result
    setReg 0 r0
    clobber

def savedReg (i : Fin 4) : Reg := ⟨6 + i.val, by omega⟩

def callLocal (insn : Insn) (pc : Nat) : M ω Unit := do
  let depth ← read fun s => s.callFrames.length
  if depth ≥ maxCallDepth then err (.callDepthExceeded (pc - 1))
  else do
    let frameSize := BitVec.ofNat 64 stackSizePerFrame
    update fun s => { s with callFrames := ⟨fun i => s.reg (savedReg i), pc, frameSize⟩ :: s.callFrames }
    let r10 ← getReg 10
    let top ← subU64 env r10.value frameSize
    setReg 10 ⟨top, r10.region⟩
    jump env pc insn.imm.toInt

def call (insn : Insn) (src : Reg) (pc : Nat) : M ω Unit :=
  if src = 0 ∨ src = 2 then callHelper env insn pc
  else if src = 1 then callLocal env insn pc
  else err (.unknownOpcode (pc - 1) insn.opc)

def exit : M ω (Option (BitVec 64)) := do
  let frames ← read State.callFrames
  match frames with
  | [] => do
    let r0 ← getReg 0
    return some r0.value
  | frame :: rest => do
    update fun s =>
      { s with
        callFrames := rest
        reg := fun r => if h : 6 ≤ r.val ∧ r.val ≤ 9 then frame.saved ⟨r.val - 6, by omega⟩ else s.reg r
        pc := frame.returnPc }
    let r10 ← getReg 10
    let top ← addU64 env r10.value frame.frameSize
    setReg 10 ⟨top, r10.region⟩
    return none

def proceed (arm : M ω Unit) : M ω (Option (BitVec 64)) := do
  arm
  return none

def execute (o : Opcode) (insn : Insn) (dst src : Reg) (pc : Nat) : M ω (Option (BitVec 64)) :=
  match o with
  | .ldDwImm => proceed (ldDwImm env insn dst src)
  | .ldReg .dw => proceed (ldDwReg env insn dst src pc)
  | .ldReg size => proceed (ldReg size insn dst src pc)
  | .ldsxReg size => proceed (ldsxReg size insn dst src pc)
  | .stImm size => proceed (stImm env size insn dst pc)
  | .stReg .dw => proceed (stDwReg env insn dst src pc)
  | .stReg size => proceed (stReg env size insn dst src pc)
  | .stWAtomic => proceed (stWAtomic env insn dst src pc)
  | .stDwAtomic => proceed (stDwAtomic env insn dst src pc)
  | .alu32 op source => proceed (execAlu32 op source insn dst src pc)
  | .le => proceed (execSwap false insn dst pc)
  | .be => proceed (execSwap true insn dst pc)
  | .bswap => proceed (execSwap true insn dst pc)
  | .alu64 op source => proceed (execAlu64 op source insn dst src pc)
  | .ja => proceed (jump env pc insn.off.toInt)
  | .jmp op source => proceed (execJmp env op source insn dst src pc)
  | .ja32 => proceed (jump env pc insn.imm.toInt)
  | .jmp32 op source => proceed (execJmp32 env op source insn dst src pc)
  | .call => proceed (call env insn src pc)
  | .exit => exit env

/-- One turn of the loop, at a `pc` inside the program. `some r0` is the final `Ok(r0)`. -/
def iterate : M ω (Option (BitVec 64)) := do
  let pc ← getPc
  charge env pc
  match getInsn env.prog pc with
  | none => panicked
  | some insn => do
    setPc (pc + 1)
    let pc := pc + 1
    if h : insn.dst ≤ 10 ∧ insn.src ≤ 10 then
      match opcode insn.opc with
      | some o => execute env o insn ⟨insn.dst, Insn.dst_lt h⟩ ⟨insn.src, Insn.src_lt h⟩ pc
      | none => err (.unknownOpcode (pc - 1) insn.opc)
    else err (.unknownOpcode (pc - 1) insn.opc)

/-! ### Whole runs -/

def initialReg : Reg → TaggedReg := fun r =>
  if r = 1 then ⟨env.ctxBase, if env.ctxLen = 0 then none else some env.ctxRegion⟩
  else if r = 2 then .scalar (BitVec.ofNat 64 env.ctxLen)
  else if r = 10 then ⟨env.stackBase + BitVec.ofNat 64 stackSize, some env.stackRegion⟩
  else .zeroed

def initial (mem : Mem) (host : ω) : State ω where
  reg := initialReg env
  spillTracker := .new
  callFrames := []
  pc := 0
  insnCount := 0
  mem := mem.zero env.stackBase stackSize
  host := host
  accesses := []

-- The checks before the loop: the program length, and the two `expect`s on the address ranges.
def prologue : Except Stop Unit :=
  if env.prog.length % insnSize ≠ 0 then .error (.err (.outOfBounds env.numInsns))
  else if 2 ^ 64 ≤ env.stackBase.toNat + stackSize then .error .panicked
  else if 2 ^ 64 ≤ env.ctxBase.toNat + env.ctxLen then .error .panicked
  else .ok ()

theorem prologue_ok {env : Env ω} (ready : prologue env = .ok ()) :
    env.stackBase.toNat + stackSize < 2 ^ 64 ∧ env.ctxBase.toNat + env.ctxLen < 2 ^ 64 := by
  unfold prologue at ready
  split at ready
  · cases ready
  split at ready
  · cases ready
  split at ready
  · cases ready
  · omega

def loop : Nat → State ω → Option (Except Stop (BitVec 64) × State ω)
  | 0, _ => none
  | fuel + 1, s =>
    if s.pc < env.numInsns then
      match iterate env s with
      | (.ok none, s') => loop fuel s'
      | (.ok (some r0), s') => some (.ok r0, s')
      | (.error e, s') => some (.error e, s')
    else some (.error (.err (.outOfBounds s.pc)), s)

def executeProgram (fuel : Nat) (mem : Mem) (host : ω) : Option (Except Stop (BitVec 64) × State ω) :=
  match prologue env with
  | .error e => some (.error e, initial env mem host)
  | .ok () => loop env fuel (initial env mem host)

inductive Running (mem : Mem) (host : ω) : State ω → Prop
  | start (ready : prologue env = .ok ()) : Running mem host (initial env mem host)
  | turn {s s' : State ω} (running : Running mem host s) (inside : s.pc < env.numInsns)
      (action : iterate env s = (.ok none, s')) : Running mem host s'

theorem Running.ready {env : Env ω} {mem : Mem} {host : ω} {s : State ω} (running : Running env mem host s) :
    prologue env = .ok () := by
  induction running with
  | start ready => exact ready
  | turn previous inside action ih => exact ih

-- A turn that returns or fails leaves a state too, with the accesses it made before.
def Reached (mem : Mem) (host : ω) (s : State ω) : Prop :=
  Running env mem host s ∨ ∃ before, Running env mem host before ∧ before.pc < env.numInsns ∧ (iterate env before).2 = s

theorem loop_reached {mem : Mem} {host : ω} {fuel : Nat} {s final : State ω} {result : Except Stop (BitVec 64)}
    (running : Running env mem host s) (h : loop env fuel s = some (result, final)) : Reached env mem host final := by
  induction fuel generalizing s with
  | zero => simp [loop] at h
  | succ fuel ih =>
    by_cases inside : s.pc < env.numInsns
    · simp only [loop, inside, if_true] at h
      have last : Reached env mem host (iterate env s).2 := .inr ⟨s, running, inside, rfl⟩
      cases action : iterate env s with
      | mk outcome s' =>
        rw [action] at h last
        cases outcome with
        | error e =>
          simp only [Option.some.injEq, Prod.mk.injEq] at h
          exact h.2 ▸ last
        | ok value =>
          cases value with
          | none => exact ih (running.turn inside action) h
          | some r0 =>
            simp only [Option.some.injEq, Prod.mk.injEq] at h
            exact h.2 ▸ last
    · simp only [loop, inside, if_false, Option.some.injEq, Prod.mk.injEq] at h
      exact h.2 ▸ .inl running

theorem loop_le {fuel fuel' : Nat} (more : fuel ≤ fuel') {s : State ω} {run : Except Stop (BitVec 64) × State ω}
    (h : loop env fuel s = some run) : loop env fuel' s = some run := by
  induction fuel generalizing fuel' s with
  | zero => simp [loop] at h
  | succ fuel ih =>
    cases fuel' with
    | zero => omega
    | succ fuel' =>
      by_cases inside : s.pc < env.numInsns
      · simp only [loop, inside, if_true] at h ⊢
        cases action : iterate env s with
        | mk outcome s' =>
          rw [action] at h
          cases outcome with
          | error e => exact h
          | ok value =>
            cases value with
            | none => exact ih (by omega) h
            | some r0 => exact h
      · simpa [loop, inside] using h

theorem loop_unique {fuel fuel' : Nat} {s : State ω} {run run' : Except Stop (BitVec 64) × State ω}
    (h : loop env fuel s = some run) (h' : loop env fuel' s = some run') : run = run' := by
  have long := loop_le env (Nat.le_add_right fuel fuel') h
  have long' := loop_le env (Nat.le_add_left fuel' fuel) h'
  exact Option.some.inj (long.symm.trans long')

theorem Running.loop {mem : Mem} {host : ω} {s : State ω} (running : Running env mem host s) :
    ∃ turns, ∀ fuel, Bpf.loop env (fuel + turns) (initial env mem host) = Bpf.loop env fuel s := by
  induction running with
  | start ready => exact ⟨0, fun _ => rfl⟩
  | turn previous inside action ih =>
    obtain ⟨turns, passes⟩ := ih
    refine ⟨turns + 1, fun fuel => ?_⟩
    rw [show fuel + (turns + 1) = (fuel + 1) + turns by omega, passes]
    simp only [Bpf.loop, inside, if_true, action]

end

end Sonde.Bpf
