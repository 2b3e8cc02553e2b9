import Sonde.Bpf.Ebpf
import Sonde.Bpf.Memory

/-!
# The instruction set of RFC 9669

The instructions of the classes ALU, ALU64, JMP, JMP32, LDX, ST and STX except CALL and EXIT, over numbers. The machine is
little-endian, as the hosts of the interpreter are.
-/

namespace Sonde.Bpf.Rfc9669

inductive Width where
  | word | double
  deriving DecidableEq, Repr

def Width.bits : Width → Nat
  | .word => 32
  | .double => 64

inductive Operation where
  | alu (width : Width) (op : AluOp) (source : Source)
  | toLe
  | toBe
  | bswap
  | ja
  | jaLong
  | jmp (width : Width) (op : JmpOp) (source : Source)
  | load (size : Size)
  | loadSigned (size : Size)
  | storeImm (size : Size)
  | store (size : Size)
  | atomic (size : Size)
  deriving DecidableEq, Repr

def aluCode : Nat → Option AluOp
  | 0x0 => some .add
  | 0x1 => some .sub
  | 0x2 => some .mul
  | 0x3 => some .div
  | 0x4 => some .or
  | 0x5 => some .and
  | 0x6 => some .lsh
  | 0x7 => some .rsh
  | 0x8 => some .neg
  | 0x9 => some .mod
  | 0xa => some .xor
  | 0xb => some .mov
  | 0xc => some .arsh
  | _ => none

def jmpCode : Nat → Option JmpOp
  | 0x1 => some .jeq
  | 0x2 => some .jgt
  | 0x3 => some .jge
  | 0x4 => some .jset
  | 0x5 => some .jne
  | 0x6 => some .jsgt
  | 0x7 => some .jsge
  | 0xa => some .jlt
  | 0xb => some .jle
  | 0xc => some .jslt
  | 0xd => some .jsle
  | _ => none

def sizeCode : Nat → Size
  | 0 => .w
  | 1 => .h
  | 2 => .b
  | _ => .dw

def aluOperation (width : Width) (code : Nat) (source : Source) : Option Operation :=
  match aluCode code with
  | none => none
  | some op => if op = .neg ∧ source = .reg then none else some (.alu width op source)

def operation (opc : BitVec 8) : Option Operation :=
  let code := opc.toNat / 16
  let source : Source := if opc.toNat / 8 % 2 = 0 then .imm else .reg
  let mode := opc.toNat / 32
  let size := sizeCode (opc.toNat / 8 % 4)
  match opc.toNat % 8 with
  | 1 => if mode = 3 then some (.load size) else if mode = 4 ∧ size ≠ .dw then some (.loadSigned size) else none
  | 2 => if mode = 3 then some (.storeImm size) else none
  | 3 =>
    if mode = 3 then some (.store size)
    else if mode = 6 ∧ (size = .w ∨ size = .dw) then some (.atomic size)
    else none
  | 4 => if code = 0xd then some (if source = .imm then .toLe else .toBe) else aluOperation .word code source
  | 5 =>
    if code = 0 then if source = .imm then some .ja else none
    else (jmpCode code).map fun op => .jmp .double op source
  | 6 =>
    if code = 0 then if source = .imm then some .jaLong else none
    else (jmpCode code).map fun op => .jmp .word op source
  | 7 =>
    if code = 0xd then if source = .imm then some .bswap else none
    else aluOperation .double code source
  | _ => none

def atomicCodes : List Nat := [0x00, 0x01, 0x40, 0x41, 0x50, 0x51, 0xa0, 0xa1, 0xe1, 0xf1]

def variants (width : Width) (op : AluOp) (source : Source) : List Nat :=
  match op, source, width with
  | .div, _, _ | .mod, _, _ => [0, 1]
  | .mov, .reg, .word => [0, 8, 16]
  | .mov, .reg, .double => [0, 8, 16, 32]
  | _, _, _ => [0]

def sourceClear (source : Source) (insn : Insn) : Bool :=
  match source with
  | .imm => insn.src == 0
  | .reg => insn.imm == 0

variable (insn : Insn)

def Operation.selected : Operation → Bool
  | .alu width op source => (variants width op source).contains insn.off.toNat
  | .toLe | .toBe | .bswap => [16, 32, 64].contains insn.imm.toNat
  | .atomic _ => atomicCodes.contains insn.imm.toNat
  | _ => true

def Operation.clear : Operation → Bool
  | .alu _ op source => sourceClear source insn && (op != .neg || insn.imm == 0)
  | .toLe | .toBe | .bswap => insn.src == 0 && insn.off == 0
  | .ja => insn.dst == 0 && insn.src == 0 && insn.imm == 0
  | .jaLong => insn.dst == 0 && insn.src == 0 && insn.off == 0
  | .jmp _ _ source => sourceClear source insn
  | .load _ | .loadSigned _ | .store _ => insn.imm == 0
  | .storeImm _ => insn.src == 0
  | .atomic _ => true

def Operation.permits (o : Operation) : Bool := o.selected insn && o.clear insn

-- The smallest number divided by -1 is the smallest number again. Division by zero gives zero.
def quotient {w : Nat} (signed : Bool) (x y : BitVec w) : BitVec w :=
  if y.toNat = 0 then 0
  else if signed then
    if x.toInt = -2 ^ (w - 1) ∧ y.toInt = -1 then x else .ofInt w (x.toInt.tdiv y.toInt)
  else .ofNat w (x.toNat / y.toNat)

-- The remainder for division by zero is the dividend.
def remainder {w : Nat} (signed : Bool) (x y : BitVec w) : BitVec w :=
  if y.toNat = 0 then x
  else if signed then
    if x.toInt = -2 ^ (w - 1) ∧ y.toInt = -1 then 0 else .ofInt w (x.toInt.tmod y.toInt)
  else .ofNat w (x.toNat % y.toNat)

def arithmetic {w : Nat} (op : AluOp) (off : Nat) (x y : BitVec w) : BitVec w :=
  match op with
  | .add => .ofNat w (x.toNat + y.toNat)
  | .sub => .ofInt w (x.toNat - y.toNat)
  | .mul => .ofNat w (x.toNat * y.toNat)
  | .div => quotient (off = 1) x y
  | .or => x ||| y
  | .and => x &&& y
  | .lsh => .ofNat w (x.toNat * 2 ^ (y.toNat % w))
  | .rsh => .ofNat w (x.toNat / 2 ^ (y.toNat % w))
  | .neg => .ofInt w (-x.toInt)
  | .mod => remainder (off = 1) x y
  | .xor => x ^^^ y
  | .mov => if off = 0 then y else .ofInt w (Int.bmod y.toNat (2 ^ off))
  | .arsh => .ofInt w (x.toInt / 2 ^ (y.toNat % w))

def condition {w : Nat} (op : JmpOp) (x y : BitVec w) : Bool :=
  match op with
  | .jeq => x.toNat = y.toNat
  | .jgt => x.toNat > y.toNat
  | .jge => x.toNat ≥ y.toNat
  | .jset => x &&& y ≠ 0
  | .jne => x.toNat ≠ y.toNat
  | .jsgt => x.toInt > y.toInt
  | .jsge => x.toInt ≥ y.toInt
  | .jlt => x.toNat < y.toNat
  | .jle => x.toNat ≤ y.toNat
  | .jslt => x.toInt < y.toInt
  | .jsle => x.toInt ≤ y.toInt

def reversed : Nat → Nat → Nat
  | 0, _ => 0
  | n + 1, v => v % 256 * 256 ^ n + reversed n (v / 256)

structure Machine where
  reg : Fin 11 → BitVec 64
  mem : Mem
  pc : Int

variable (m : Machine)

def Machine.assign (r : Fin 11) (v : BitVec 64) : Machine := { m with reg := Function.update m.reg r v }

def Machine.goto (offset : Int) : Machine := { m with pc := m.pc + 1 + offset }

def Machine.operand (source : Source) (insn : Insn) (src : Fin 11) : BitVec 64 :=
  match source with
  | .imm => .ofInt 64 insn.imm.toInt
  | .reg => m.reg src

def address (base : BitVec 64) (off : BitVec 16) : BitVec 64 := .ofInt 64 (base.toNat + off.toInt)

def value (mem : Mem) (addr : BitVec 64) : Nat → Nat
  | 0 => 0
  | n + 1 => (mem addr).toNat + 256 * value mem (addr + 1) n

def written (mem : Mem) (addr : BitVec 64) (n v : Nat) : Mem := fun a =>
  let i := (a - addr).toNat
  if i < n then .ofNat 8 (v / 256 ^ i) else mem a

def Machine.write (addr : BitVec 64) (n v : Nat) : Machine := { m with mem := written m.mem addr n v }

def Machine.atomic (code : Nat) (addr : BitVec 64) (n : Nat) (src : Fin 11) : Machine :=
  let old := value m.mem addr n
  let operand := (m.reg src).toNat
  let update (v : Nat) : Machine := if code % 2 = 1 then (m.write addr n v).assign src (.ofNat 64 old) else m.write addr n v
  match code / 16 with
  | 0x0 => update (old + operand)
  | 0x4 => update (old ||| operand)
  | 0x5 => update (old &&& operand)
  | 0xa => update (old ^^^ operand)
  | 0xe => update operand
  | _ =>
    let expected := (m.reg 0).toNat % 256 ^ n
    (if old = expected then m.write addr n operand else m).assign 0 (.ofNat 64 old)

def Operation.perform (dst src : Fin 11) (m : Machine) : Operation → Machine
  | .alu width op source =>
    let x := (m.reg dst).setWidth width.bits
    let y := (m.operand source insn src).setWidth width.bits
    (m.assign dst (.ofNat 64 (arithmetic op insn.off.toNat x y).toNat)).goto 0
  | .toLe => (m.assign dst (.ofNat 64 ((m.reg dst).toNat % 2 ^ insn.imm.toNat))).goto 0
  | .toBe | .bswap => (m.assign dst (.ofNat 64 (reversed (insn.imm.toNat / 8) (m.reg dst).toNat))).goto 0
  | .ja => m.goto insn.off.toInt
  | .jaLong => m.goto insn.imm.toInt
  | .jmp width op source =>
    let x := (m.reg dst).setWidth width.bits
    let y := (m.operand source insn src).setWidth width.bits
    m.goto (if condition op x y then insn.off.toInt else 0)
  | .load size => (m.assign dst (.ofNat 64 (value m.mem (address (m.reg src) insn.off) size.bytes))).goto 0
  | .loadSigned size =>
    let v := value m.mem (address (m.reg src) insn.off) size.bytes
    (m.assign dst (.ofInt 64 (Int.bmod v (256 ^ size.bytes)))).goto 0
  | .storeImm size =>
    (m.write (address (m.reg dst) insn.off) size.bytes (m.operand .imm insn src).toNat).goto 0
  | .store size => (m.write (address (m.reg dst) insn.off) size.bytes (m.reg src).toNat).goto 0
  | .atomic size =>
    (m.atomic insn.imm.toNat (address (m.reg dst) insn.off) size.bytes src).goto 0

def step : Option Machine :=
  if h : insn.dst ≤ 10 ∧ insn.src ≤ 10 then
    match operation insn.opc with
    | none => none
    | some o =>
      if o.permits insn then some (o.perform insn ⟨insn.dst, Insn.dst_lt h⟩ ⟨insn.src, Insn.src_lt h⟩ m) else none
  else none

def Defined : Prop := (insn.dst ≤ 10 ∧ insn.src ≤ 10) ∧ ∃ o, operation insn.opc = some o ∧ o.permits insn

end Sonde.Bpf.Rfc9669
