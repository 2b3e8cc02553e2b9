import Mathlib

namespace Sonde.Bpf

def insnSize : Nat := 8

/-- `MAX_CALL_DEPTH` without the `stack-512` feature, which neither the node nor the gateway enables. -/
def maxCallDepth : Nat := 8

def stackSizePerFrame : Nat := 512

def stackSize : Nat := stackSizePerFrame * maxCallDepth

def bpfLd : BitVec 8 := 0x00
def bpfLdx : BitVec 8 := 0x01
def bpfSt : BitVec 8 := 0x02
def bpfStx : BitVec 8 := 0x03
def bpfAlu : BitVec 8 := 0x04
def bpfJmp : BitVec 8 := 0x05
def bpfJmp32 : BitVec 8 := 0x06
def bpfAlu64 : BitVec 8 := 0x07

def bpfImm : BitVec 8 := 0x00
def bpfMem : BitVec 8 := 0x60
def bpfMemsx : BitVec 8 := 0x80
def bpfAtomic : BitVec 8 := 0xc0

def bpfEnd : BitVec 8 := 0xd0
def bpfJa : BitVec 8 := 0x00
def bpfCall : BitVec 8 := 0x80
def bpfExit : BitVec 8 := 0x90

def bpfAtomicAdd : BitVec 32 := 0x00
def bpfAtomicOr : BitVec 32 := 0x40
def bpfAtomicAnd : BitVec 32 := 0x50
def bpfAtomicXor : BitVec 32 := 0xa0
def bpfAtomicFetch : BitVec 32 := 0x01

inductive Size where
  | b | h | w | dw
  deriving DecidableEq, Repr

def Size.bits : Size → BitVec 8
  | .w => 0x00
  | .h => 0x08
  | .b => 0x10
  | .dw => 0x18

def Size.bytes : Size → Nat
  | .b => 1
  | .h => 2
  | .w => 4
  | .dw => 8

inductive Source where
  | imm | reg
  deriving DecidableEq, Repr

def Source.bits : Source → BitVec 8
  | .imm => 0x00
  | .reg => 0x08

inductive AluOp where
  | add | sub | mul | div | or | and | lsh | rsh | neg | mod | xor | mov | arsh
  deriving DecidableEq, Repr

def AluOp.bits : AluOp → BitVec 8
  | .add => 0x00
  | .sub => 0x10
  | .mul => 0x20
  | .div => 0x30
  | .or => 0x40
  | .and => 0x50
  | .lsh => 0x60
  | .rsh => 0x70
  | .neg => 0x80
  | .mod => 0x90
  | .xor => 0xa0
  | .mov => 0xb0
  | .arsh => 0xc0

inductive JmpOp where
  | jeq | jgt | jge | jset | jne | jsgt | jsge | jlt | jle | jslt | jsle
  deriving DecidableEq, Repr

def JmpOp.bits : JmpOp → BitVec 8
  | .jeq => 0x10
  | .jgt => 0x20
  | .jge => 0x30
  | .jset => 0x40
  | .jne => 0x50
  | .jsgt => 0x60
  | .jsge => 0x70
  | .jlt => 0xa0
  | .jle => 0xb0
  | .jslt => 0xc0
  | .jsle => 0xd0

inductive Opcode where
  | ldDwImm
  | ldReg (size : Size)
  | ldsxReg (size : Size)
  | stImm (size : Size)
  | stReg (size : Size)
  | stWAtomic
  | stDwAtomic
  | alu32 (op : AluOp) (source : Source)
  | le
  | be
  | bswap
  | alu64 (op : AluOp) (source : Source)
  | ja
  | jmp (op : JmpOp) (source : Source)
  | ja32
  | jmp32 (op : JmpOp) (source : Source)
  | call
  | exit
  deriving DecidableEq, Repr

def Opcode.byte : Opcode → BitVec 8
  | .ldDwImm => bpfLd ||| bpfImm ||| Size.dw.bits
  | .ldReg size => bpfLdx ||| bpfMem ||| size.bits
  | .ldsxReg size => bpfLdx ||| bpfMemsx ||| size.bits
  | .stImm size => bpfSt ||| bpfMem ||| size.bits
  | .stReg size => bpfStx ||| bpfMem ||| size.bits
  | .stWAtomic => bpfStx ||| bpfAtomic ||| Size.w.bits
  | .stDwAtomic => bpfStx ||| bpfAtomic ||| Size.dw.bits
  | .alu32 op source => bpfAlu ||| source.bits ||| op.bits
  | .le => bpfAlu ||| Source.imm.bits ||| bpfEnd
  | .be => bpfAlu ||| Source.reg.bits ||| bpfEnd
  | .bswap => bpfAlu64 ||| Source.imm.bits ||| bpfEnd
  | .alu64 op source => bpfAlu64 ||| source.bits ||| op.bits
  | .ja => bpfJmp ||| bpfJa
  | .jmp op source => bpfJmp ||| source.bits ||| op.bits
  | .ja32 => bpfJmp32 ||| Source.imm.bits ||| bpfJa
  | .jmp32 op source => bpfJmp32 ||| source.bits ||| op.bits
  | .call => bpfJmp ||| Source.imm.bits ||| bpfCall
  | .exit => bpfJmp ||| Source.imm.bits ||| bpfExit

def sizes : List Size := [.b, .h, .w, .dw]

def sources : List Source := [.imm, .reg]

def aluOps : List AluOp := [.add, .sub, .mul, .div, .or, .and, .lsh, .rsh, .mod, .xor, .mov, .arsh]

def jmpOps : List JmpOp := [.jeq, .jgt, .jge, .jset, .jne, .jsgt, .jsge, .jlt, .jle, .jslt, .jsle]

def opcodes : List Opcode :=
  [Opcode.ldDwImm, .stWAtomic, .stDwAtomic, .le, .be, .bswap, .ja, .ja32, .call, .exit, .alu32 .neg .imm,
    .alu64 .neg .imm] ++
  sizes.map Opcode.ldReg ++ [Opcode.ldsxReg .b, .ldsxReg .h, .ldsxReg .w] ++ sizes.map Opcode.stImm ++ sizes.map Opcode.stReg ++
  aluOps.flatMap (fun op => sources.flatMap fun source => [Opcode.alu32 op source, .alu64 op source]) ++
  jmpOps.flatMap (fun op => sources.flatMap fun source => [Opcode.jmp op source, .jmp32 op source])

/-- The arm that the interpreter's `match insn.opc` selects; `none` is its catch-all arm. -/
def opcode (opc : BitVec 8) : Option Opcode := opcodes.find? fun o => o.byte == opc

/-- A decoded instruction. The register fields are 4 bits wide, so 11 to 15 can occur. -/
structure Insn where
  opc : BitVec 8
  dst : Nat
  src : Nat
  off : BitVec 16
  imm : BitVec 32
  deriving DecidableEq, Repr

theorem Insn.dst_lt {insn : Insn} (named : insn.dst ≤ 10 ∧ insn.src ≤ 10) : insn.dst < 11 := by omega

theorem Insn.src_lt {insn : Insn} (named : insn.dst ≤ 10 ∧ insn.src ≤ 10) : insn.src < 11 := by omega

instance neZero_regs : NeZero 11 := ⟨Nat.succ_ne_zero 10⟩

/-- Decode instruction number `idx`; `none` where the source's slice index would panic. -/
def getInsn (prog : List (BitVec 8)) (idx : Nat) : Option Insn :=
  match (prog.drop (idx * insnSize)).take insnSize with
  | [b0, b1, b2, b3, b4, b5, b6, b7] =>
    some
      { opc := b0
        dst := (b1 &&& 0x0f).toNat
        src := ((b1 >>> 4) &&& 0x0f).toNat
        off := b3 ++ b2
        imm := b7 ++ b6 ++ b5 ++ b4 }
  | _ => none

end Sonde.Bpf
