import Sonde.Bpf.Ebpf

namespace Sonde.Bpf

inductive BpfError where
  | outOfBounds (pc : Nat)
  | unknownOpcode (pc : Nat) (opc : BitVec 8)
  | unknownHelper (pc : Nat) (id : BitVec 32)
  | callDepthExceeded (pc : Nat)
  | memoryAccessViolation (pc : Nat) (addr : BitVec 64) (len : Nat)
  | nonDereferenceableAccess (pc : Nat)
  | invalidHelperArgument (pc : Nat) (arg : BitVec 8)
  | readOnlyWrite (pc : Nat)
  | invalidPointerArithmetic (pc : Nat)
  | invalidMapIndex (pc : Nat) (index : BitVec 32)
  | instructionBudgetExceeded (pc : Nat)
  deriving DecidableEq, Repr

inductive Stop where
  | err (e : BpfError)
  | panicked
  deriving DecidableEq, Repr

inductive RegionTag where
  | stack
  | context
  | memory
  | mapValue (valueSize : BitVec 32)
  | mapDescriptor (mapIndex : BitVec 32)
  deriving DecidableEq, Repr

def RegionTag.isDescriptor : RegionTag → Bool
  | .mapDescriptor _ => true
  | _ => false

structure Region where
  tag : RegionTag
  base : BitVec 64
  endAddr : BitVec 64
  deriving DecidableEq, Repr

structure TaggedReg where
  value : BitVec 64
  region : Option Region
  deriving DecidableEq, Repr

def TaggedReg.scalar (value : BitVec 64) : TaggedReg := ⟨value, none⟩

def TaggedReg.zeroed : TaggedReg := ⟨0, none⟩

def TaggedReg.isStack (reg : TaggedReg) : Bool :=
  match reg.region with
  | some region => region.tag == .stack
  | none => false

-- The immediate is sign-extended to 64 bits; its low 32 bits are the immediate again.
def alu32 (op : AluOp) (source : Source) (off : BitVec 16) (d b : BitVec 64) : Option (BitVec 32) :=
  let x := d.setWidth 32
  let y := b.setWidth 32
  match op with
  | .add => some (x + y)
  | .sub => some (x - y)
  | .mul => some (x * y)
  | .div =>
    if off = 0 then some (if y = 0 then 0 else x / y)
    else some (if y = 0 then 0 else x.sdiv y)
  | .or => some (x ||| y)
  | .and => some (x &&& y)
  | .lsh => some (x <<< (y &&& 0x1f))
  | .rsh => some (x >>> (y &&& 0x1f))
  | .neg => some (-x)
  | .mod =>
    if off = 0 then some (if y ≠ 0 then x % y else x)
    else some (if y ≠ 0 then x.srem y else x)
  | .xor => some (x ^^^ y)
  | .mov =>
    if off = 0 then some y
    else
      match source with
      | .imm => none
      | .reg =>
        if off = 8 then some ((b.setWidth 8).signExtend 32)
        else if off = 16 then some ((b.setWidth 16).signExtend 32)
        else none
  | .arsh => some (x.sshiftRight (y &&& 0x1f).toNat)

def swapBytes : Nat → BitVec 64 → BitVec 64
  | 0, _ => 0
  | n + 1, v => ((v &&& 0xff) <<< (8 * n)) ||| swapBytes n (v >>> 8)

-- The hosts are little-endian: `to_le` only truncates and `to_be` swaps.
def byteSwap (swap : Bool) (imm : BitVec 32) (v : BitVec 64) : Option (BitVec 64) :=
  let convert (bytes : Nat) : BitVec 64 := if swap then swapBytes bytes v else (v.setWidth (8 * bytes)).setWidth 64
  if imm = 16 then some (convert 2)
  else if imm = 32 then some (convert 4)
  else if imm = 64 then some (convert 8)
  else none

def JmpOp.holds {w : Nat} (op : JmpOp) (a b : BitVec w) : Bool :=
  match op with
  | .jeq => a == b
  | .jgt => b.ult a
  | .jge => b.ule a
  | .jset => a &&& b != 0
  | .jne => a != b
  | .jsgt => b.slt a
  | .jsge => b.sle a
  | .jlt => a.ult b
  | .jle => a.ule b
  | .jslt => a.slt b
  | .jsle => a.sle b

/-! ## 64-bit ALU operations on tagged registers -/

def addRegion (pc : Nat) : Option Region → Option Region → Except Stop (Option Region)
  | some r, none | none, some r =>
    if r.tag.isDescriptor then .error (.err (.invalidPointerArithmetic (pc - 1))) else .ok (some r)
  | none, none => .ok none
  | some _, some _ => .error (.err (.invalidPointerArithmetic (pc - 1)))

def subRegion (pc : Nat) : Option Region → Option Region → Except Stop (Option Region)
  | some d, some s => if d = s then .ok none else .error (.err (.invalidPointerArithmetic (pc - 1)))
  | some r, none =>
    if r.tag.isDescriptor then .error (.err (.invalidPointerArithmetic (pc - 1))) else .ok (some r)
  | none, some _ => .error (.err (.invalidPointerArithmetic (pc - 1)))
  | none, none => .ok none

def bitwise (pc : Nat) (d b : TaggedReg) (v : BitVec 64) : Except Stop TaggedReg :=
  if d.region.isSome ∨ b.region.isSome then .error (.err (.invalidPointerArithmetic (pc - 1)))
  else .ok ⟨v, d.region⟩

-- The immediate form is the register form with an untagged second operand, except for MOV.
def alu64 (op : AluOp) (source : Source) (insn : Insn) (pc : Nat) (d b : TaggedReg) : Except Stop TaggedReg :=
  let x := d.value
  let y := b.value
  match op with
  | .add => (addRegion pc d.region b.region).map fun region => ⟨x + y, region⟩
  | .sub => (subRegion pc d.region b.region).map fun region => ⟨x - y, region⟩
  | .mul => .ok (.scalar (x * y))
  | .div =>
    if insn.off = 0 then .ok (.scalar (if y = 0 then 0 else x / y))
    else .ok (.scalar (if y = 0 then 0 else x.sdiv y))
  | .or => bitwise pc d b (x ||| y)
  | .and => bitwise pc d b (x &&& y)
  | .lsh => .ok (.scalar (x <<< (y.setWidth 32 &&& 0x3f)))
  | .rsh => .ok (.scalar (x >>> (y.setWidth 32 &&& 0x3f)))
  | .neg => .ok (.scalar (-x))
  | .mod =>
    if insn.off = 0 then .ok (.scalar (if y ≠ 0 then x % y else x))
    else .ok (.scalar (if y ≠ 0 then x.srem y else x))
  | .xor => bitwise pc d b (x ^^^ y)
  | .mov =>
    match source with
    | .imm => .ok (.scalar y)
    | .reg =>
      if insn.off = 0 then .ok b
      else if insn.off = 8 then .ok (.scalar ((y.setWidth 8).signExtend 64))
      else if insn.off = 16 then .ok (.scalar ((y.setWidth 16).signExtend 64))
      else if insn.off = 32 then .ok (.scalar ((y.setWidth 32).signExtend 64))
      else .error (.err (.unknownOpcode (pc - 1) insn.opc))
  | .arsh => .ok (.scalar (x.sshiftRight (y.setWidth 32 &&& 0x3f).toNat))

theorem addRegion_origin {pc : Nat} {d b r : Option Region} (h : addRegion pc d b = .ok r) : r = none ∨ r = d ∨ r = b := by
  unfold addRegion at h
  split at h
  all_goals try split at h
  all_goals simp_all

theorem subRegion_origin {pc : Nat} {d b r : Option Region} (h : subRegion pc d b = .ok r) : r = none ∨ r = d ∨ r = b := by
  unfold subRegion at h
  split at h
  all_goals try split at h
  all_goals simp_all

theorem bitwise_region {pc : Nat} {d b r : TaggedReg} {v : BitVec 64} (h : bitwise pc d b v = .ok r) :
    r.region = none := by
  unfold bitwise at h
  split at h
  · cases h
  · cases h
    simp_all

theorem alu64_region {op : AluOp} {source : Source} {insn : Insn} {pc : Nat} {d b r : TaggedReg}
    (h : alu64 op source insn pc d b = .ok r) : r.region = none ∨ r.region = d.region ∨ r.region = b.region := by
  cases op with
  | add =>
    simp only [alu64, Except.map] at h
    cases sum : addRegion pc d.region b.region with
    | error e => simp [sum] at h
    | ok region =>
      simp only [sum, Except.ok.injEq] at h
      subst h
      exact addRegion_origin sum
  | sub =>
    simp only [alu64, Except.map] at h
    cases difference : subRegion pc d.region b.region with
    | error e => simp [difference] at h
    | ok region =>
      simp only [difference, Except.ok.injEq] at h
      subst h
      exact subRegion_origin difference
  | or => exact .inl (bitwise_region h)
  | and => exact .inl (bitwise_region h)
  | xor => exact .inl (bitwise_region h)
  | mov =>
    simp only [alu64] at h
    repeat' split at h
    all_goals cases h
    all_goals simp [TaggedReg.scalar]
  | div | mod =>
    simp only [alu64] at h
    split at h
    all_goals cases h
    all_goals exact .inl rfl
  | mul | lsh | rsh | neg | arsh =>
    cases h
    exact .inl rfl

end Sonde.Bpf
