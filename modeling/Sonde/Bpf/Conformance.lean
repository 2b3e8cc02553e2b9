import Sonde.Bpf.Arithmetic
import Sonde.Bpf.Budget

/-!
# The interpreter against RFC 9669

A turn of the interpreter takes the machine of its state (the values of the registers, the memory and the program
counter) to the machine after the instruction.
-/

namespace Sonde.Bpf
open Lib.Program Rfc9669 State Rfc9669

/-! ## The machine of a state -/

variable {ω : Type} {env : Env ω}

def State.machine (s : State ω) : Machine := ⟨fun r => (s.reg r).value, s.mem, s.pc⟩

theorem fetched_reg (s : State ω) : s.fetched.reg = s.reg := rfl

theorem machine_reg (s : State ω) (r : Reg) : s.machine.reg r = (s.reg r).value := rfl

theorem fetched_mem (s : State ω) : s.fetched.mem = s.mem := rfl

theorem machine_set (s : State ω) (r : Reg) (v : TaggedReg) (accesses : List Access) :
    machine { s.fetched with reg := Function.update s.reg r v, accesses := accesses } =
      (s.machine.assign r v.value).goto 0 := by
  have regs := Function.comp_update TaggedReg.value s.reg r v
  exact congrArg (fun reg => Machine.mk reg s.mem _) regs

theorem address_eq (reg : TaggedReg) (off : BitVec 16) : reg.address off = address reg.value off := by
  simp [TaggedReg.address, address, BitVec.ofInt_add, BitVec.signExtend]

def Follows (env : Env ω) (pc : Nat) (next : Machine) (run : Except Stop (Option (BitVec 64)) × State ω) : Prop :=
  (∃ s', run = (.ok none, s') ∧ s'.machine = next) ∨
    ¬(0 ≤ next.pc ∧ next.pc < env.numInsns) ∧ run.1 = .error (jumpError env (pc + 1) next.pc)

variable {arm : M ω Unit} {pc : Nat} {s : State ω}

theorem Follows.proceed {next : Machine} {s' : State ω} (run : arm s = (.ok (), s'))
    (takes : s'.machine = next) : Follows env pc next (proceed arm s) := by
  refine .inl ⟨s', ?_, takes⟩
  rw [Bpf.proceed, bind_run, run]
  rfl

variable {dst : Reg}

theorem Follows.assign {v : TaggedReg} {val : BitVec 64} (accesses : List Access)
    (run : arm s.fetched = (.ok (), { s.fetched with reg := Function.update s.reg dst v, accesses := accesses }))
    (same : v.value = val) : Follows env s.pc ((s.machine.assign dst val).goto 0) (Bpf.proceed arm s.fetched) :=
  Follows.proceed run (same ▸ machine_set s dst v accesses)

theorem operand_run (source : Source) (insn : Insn) (src : Reg) (s : State ω) :
    ∃ b, operand source insn src s.fetched = (.ok b, s.fetched) ∧ b.value = s.machine.operand source insn src ∧
      ((source = .reg → (s.reg src).region = none) → b.region = none) := by
  cases source with
  | imm => exact ⟨_, rfl, rfl, fun _ => rfl⟩
  | reg => exact ⟨_, rfl, rfl, fun plain => plain rfl⟩

variable {op : AluOp} {insn : Insn} {source : Source}

theorem execAlu32_follows (dst src : Reg) (s : State ω) (listed : (variants .word op source).contains insn.off.toNat) :
    Follows env s.pc ((Operation.alu .word op source).perform insn dst src s.machine)
      (proceed (execAlu32 op source insn dst src (s.pc + 1)) s.fetched) := by
  obtain ⟨b, fetched, value, _⟩ := operand_run source insn src s
  refine Follows.assign (v := .scalar ((arithmetic op insn.off.toNat ((s.reg dst).value.setWidth 32)
    (b.value.setWidth 32)).setWidth 64)) s.accesses ?_ ?_
  · simp only [execAlu32, bind_run, getReg, read_run, fetched, alu32_arithmetic _ _ listed, Option.map_some, setScalar,
      setReg, update_run, fetched_reg]
    rfl
  · rw [value, ← BitVec.ofNat_toNat]
    rfl

theorem execAlu64_follows (dst src : Reg) (s : State ω)
    (plain : (s.reg dst).region = none) (plain' : source = .reg → (s.reg src).region = none)
    (listed : (variants .double op source).contains insn.off.toNat) :
    Follows env s.pc ((Operation.alu .double op source).perform insn dst src s.machine)
      (proceed (execAlu64 op source insn dst src (s.pc + 1)) s.fetched) := by
  obtain ⟨b, fetched, value, untagged⟩ := operand_run source insn src s
  refine Follows.assign (v := .scalar (arithmetic op insn.off.toNat (s.reg dst).value b.value)) s.accesses ?_ ?_
  · simp only [execAlu64, bind_run, getReg, read_run, fetched, ofExcept_run, fetched_reg,
      alu64_arithmetic (s.pc + 1) plain (untagged plain') listed, setReg, update_run]
    rfl
  · rw [value, BitVec.ofNat_toNat]
    rfl

theorem jump_follows (s : State ω) (offset : Int) :
    Follows env s.pc (s.machine.goto offset) (proceed (jump env (s.pc + 1) offset) s.fetched) := by
  have target : (s.machine.goto offset).pc = ((s.pc + 1 : Nat) : Int) + offset := by
    simp [machine, Machine.goto]
  by_cases outside : ((s.pc + 1 : Nat) : Int) + offset < 0 ∨ (env.numInsns : Int) ≤ ((s.pc + 1 : Nat) : Int) + offset
  · refine .inr ⟨by rw [target]; omega, ?_⟩
    simp only [proceed, jump, checkJump, if_pos outside, bind_run, ofExcept_run, target]
  · have run : jump env (s.pc + 1) offset s.fetched =
        (.ok (), { s.fetched with pc := (((s.pc + 1 : Nat) : Int) + offset).toNat }) := by
      simp only [jump, checkJump, if_neg outside, bind_run, ofExcept_run, setPc, update_run]
    refine Follows.proceed run ?_
    simp only [machine, Machine.goto, fetched, Machine.mk.injEq]
    refine ⟨trivial, trivial, ?_⟩
    omega

theorem branch_follows (s : State ω) (taken : Bool) (offset : Int) :
    Follows env s.pc (s.machine.goto (if taken then offset else 0))
      (proceed (onlyIf taken (jump env (s.pc + 1) offset)) s.fetched) := by
  cases taken with
  | true => exact jump_follows s offset
  | false =>
    refine Follows.proceed rfl ?_
    simp [machine, Machine.goto, fetched]

theorem compare_follows {op : JmpOp} {width : Width} {taken : BitVec 64 → BitVec 64 → Bool} (src : Reg)
    (decides : ∀ x y, taken x y = condition op (x.setWidth width.bits) (y.setWidth width.bits))
    (run : arm = (do
      let d ← getReg dst
      let b ← operand source insn src
      onlyIf (taken d.value b.value) (jump env (s.pc + 1) insn.off.toInt))) :
    Follows env s.pc ((Operation.jmp width op source).perform insn dst src s.machine) (proceed arm s.fetched) := by
  obtain ⟨b, fetched, value, _⟩ := operand_run source insn src s
  have branch : Follows env s.pc _ _ := branch_follows s (taken (s.reg dst).value b.value) insn.off.toInt
  simp only [Operation.perform, ← value, machine_reg, ← decides]
  simpa only [proceed, run, bind_run, getReg, read_run, fetched, fetched_reg] using branch

theorem execSwap_follows {swap : Bool} {val : BitVec 64} (dst : Reg) (s : State ω)
    (converts : byteSwap swap insn.imm (s.reg dst).value = some val) :
    Follows env s.pc ((s.machine.assign dst val).goto 0) (proceed (execSwap swap insn dst (s.pc + 1)) s.fetched) := by
  refine Follows.assign (v := .scalar val) s.accesses ?_ rfl
  simp only [execSwap, bind_run, getReg, read_run, fetched_reg, converts, setScalar, setReg, update_run]
  rfl

/-! ## Memory -/

def Accessible (base : TaggedReg) (off : BitVec 16) (size : Size) (pc : Nat) : Prop :=
  ∃ region addr, checkAccess base off size.bytes pc = .ok (region, addr)

def Writable (base : TaggedReg) (off : BitVec 16) (size : Size) (pc : Nat) : Prop :=
  ∃ region addr, checkAccess base off size.bytes pc = .ok (region, addr) ∧ region.tag ≠ .context

variable {off : BitVec 16} {base : TaggedReg}

theorem checkAccess_address {len : Nat} {region : Region} {addr : BitVec 64}
    (passes : checkAccess base off len pc = .ok (region, addr)) : addr = address base.value off :=
  (checkAccess_ok passes).2.1.trans (address_eq base off)

theorem Size.bytes_le (size : Size) : size.bytes ≤ 8 := by
  cases size <;> decide

theorem load_eq (mem : Mem) (addr : BitVec 64) (size : Size) :
    mem.load addr size.bytes = .ofNat 64 (value mem addr size.bytes) := by
  rw [← load_value mem addr size.bytes_le, BitVec.ofNat_toNat, BitVec.setWidth_eq]

variable {size : Size}

theorem memLoad_run (s : State ω) (accessible : Accessible base off size pc) : memLoad size base off pc s =
      (.ok (.ofNat 64 (value s.mem (address base.value off) size.bytes)),
        { s with accesses := ⟨false, address base.value off, size.bytes⟩ :: s.accesses }) := by
  obtain ⟨region, addr, passes⟩ := accessible
  rw [← checkAccess_address passes, ← load_eq]
  simp only [memLoad, bind_run, ofExcept_run, passes, readMem]

theorem memLoadSignExtend_run (s : State ω) (accessible : Accessible base off size pc) :
    memLoadSignExtend size base off pc s =
      (.ok (.ofInt 64 (Int.bmod (value s.mem (address base.value off) size.bytes) (256 ^ size.bytes))),
        { s with accesses := ⟨false, address base.value off, size.bytes⟩ :: s.accesses }) := by
  obtain ⟨region, addr, passes⟩ := accessible
  have pow : 256 ^ size.bytes = 2 ^ (8 * size.bytes) := by rw [Nat.pow_mul]
  have same : ((s.mem.load addr size.bytes).setWidth (8 * size.bytes)).signExtend 64 =
      .ofInt 64 (Int.bmod (value s.mem addr size.bytes) (256 ^ size.bytes)) := by
    rw [BitVec.signExtend, BitVec.toInt_eq_toNat_bmod, BitVec.toNat_setWidth, load_value _ _ size.bytes_le,
      Int.natCast_emod, Int.emod_bmod, pow]
  rw [← checkAccess_address passes, ← same]
  simp only [memLoadSignExtend, bind_run, ofExcept_run, passes, readMem, pure_run]

theorem load_follows {load : M ω (BitVec 64)} {val : BitVec 64} {accesses : List Access} (region : Option Region)
    (loads : load s.fetched = (.ok val, { s.fetched with accesses := accesses }))
    (run : arm s.fetched = (load >>= fun val => setReg dst ⟨val, region⟩) s.fetched) :
    Follows env s.pc ((s.machine.assign dst val).goto 0) (proceed arm s.fetched) := by
  refine Follows.assign (v := ⟨val, region⟩) accesses ?_ rfl
  rw [run, bind_run, loads]
  rfl

def Quiet (m : M ω Unit) : Prop := ∀ s, ∃ spills, m s = (.ok (), { s with spillTracker := spills })

theorem modifySpill_quiet (f : SpillTracker → SpillTracker) (c : Prop) [Decidable c] :
    Quiet (onlyIf c (modifySpill f) : M ω Unit) := by
  intro s
  simp only [onlyIf, ite_run, modifySpill, update_run, pure_run]
  split
  · exact ⟨_, rfl⟩
  · exact ⟨_, rfl⟩

theorem machine_write (s : State ω) (mem : Mem) (spills : SpillTracker) (accesses : List Access) :
    machine { s.fetched with mem := mem, spillTracker := spills, accesses := accesses } =
      Machine.goto { s.machine with mem := mem } 0 := by
  simp [machine, Machine.goto, fetched]

variable {tail : M ω Unit}

theorem memStore_follows (val : BitVec 64) (writable : Writable base off size s.pc) (quiet : Quiet tail)
    (run : arm s.fetched = (memStore size base off val s.pc >>= fun _ => tail) s.fetched) :
    Follows env s.pc ((s.machine.write (address base.value off) size.bytes val.toNat).goto 0) (proceed arm s.fetched) := by
  obtain ⟨region, addr, passes, other⟩ := writable
  have stored : memStore size base off val s.pc s.fetched =
      (.ok (), { s.fetched with
        mem := s.mem.store addr size.bytes val
        accesses := ⟨true, addr, size.bytes⟩ :: s.accesses }) := by
    simp only [memStore, bind_run, ofExcept_run, passes, onlyIf, if_pos other, writeMem, update_run]
    rfl
  obtain ⟨spills, after⟩ := quiet { s.fetched with
    mem := s.mem.store addr size.bytes val
    accesses := ⟨true, addr, size.bytes⟩ :: s.accesses }
  rw [bind_run, stored] at run
  refine Follows.proceed (run.trans after) ((machine_write s _ spills _).trans ?_)
  rw [store_written _ _ _ size.bytes_le, checkAccess_address passes]
  rfl

theorem spillOrInvalidate_quiet (base value : TaggedReg) (insn : Insn) : Quiet (spillOrInvalidate env base value insn) := by
  unfold spillOrInvalidate
  cases value.region with
  | none => exact modifySpill_quiet _ _
  | some region =>
    dsimp only
    split
    · exact modifySpill_quiet _ _
    · exact modifySpill_quiet _ _

section
variable (s : State ω) (addr : BitVec 64) (size : Size) (accesses : List Access)

theorem store_value (v : BitVec 64) : s.mem.store addr size.bytes v = written s.mem addr size.bytes v.toNat :=
  store_written _ _ _ size.bytes_le

theorem load_toNat : (s.mem.load addr size.bytes).toNat = value s.mem addr size.bytes := load_value _ _ size.bytes_le

theorem store_sum (v : BitVec 64) : s.mem.store addr size.bytes (s.mem.load addr size.bytes + v) =
      written s.mem addr size.bytes (value s.mem addr size.bytes + v.toNat) := by
  rw [store_value, BitVec.toNat_add, load_toNat, written_mod _ _ _ size.bytes_le]

theorem machine_update {mem : Mem} {v : Nat} (stored : mem = written s.mem addr size.bytes v) :
    machine { s.fetched with mem := mem, accesses := accesses } = (s.machine.write addr size.bytes v).goto 0 := by
  simp [machine, Machine.write, Machine.goto, fetched, stored]

theorem machine_fetch (r : Reg) {mem : Mem} {v : Nat} (stored : mem = written s.mem addr size.bytes v) :
    machine { s.fetched with
        reg := Function.update s.reg r (.scalar (s.mem.load addr size.bytes)), mem := mem, accesses := accesses } =
      ((s.machine.write addr size.bytes v).assign r (.ofNat 64 (value s.mem addr size.bytes))).goto 0 := by
  rw [← load_eq, stored]
  exact machine_set { s with mem := written s.mem addr size.bytes v } r _ accesses

theorem expected_iff (v : BitVec 64) : s.mem.load addr size.bytes = (v.setWidth (8 * size.bytes)).setWidth 64 ↔
      value s.mem addr size.bytes = v.toNat % 256 ^ size.bytes := by
  have pow : 256 ^ size.bytes = 2 ^ (8 * size.bytes) := by rw [Nat.pow_mul]
  have small : v.toNat % 2 ^ (8 * size.bytes) < 2 ^ 64 := Nat.lt_of_le_of_lt (Nat.mod_le _ _) v.isLt
  rw [← BitVec.toNat_inj, load_toNat, BitVec.toNat_setWidth, BitVec.toNat_setWidth, Nat.mod_eq_of_lt small, pow]

end

variable {imm : BitVec 32} {opc : BitVec 8}

theorem memAtomic_machine (src : Reg) (s : State ω) (writable : Writable base off size s.pc)
    (listed : atomicCodes.contains imm.toNat) : ∃ t, memAtomic size opc base off src imm s.pc s.fetched = (.ok (), t) ∧
      t.machine = (s.machine.atomic imm.toNat (address base.value off) size.bytes src).goto 0 := by
  obtain ⟨region, addr, passes, other⟩ := writable
  have codes : imm = 0 ∨ imm = 1 ∨ imm = 0x40 ∨ imm = 0x41 ∨ imm = 0x50 ∨ imm = 0x51 ∨ imm = 0xa0 ∨ imm = 0xa1 ∨
      imm = 0xe1 ∨ imm = 0xf1 := by
    simp [atomicCodes] at listed
    bv_omega
  rw [← checkAccess_address passes]
  have sum := store_sum s addr size (s.reg src).value
  have stored := store_value s addr size
  have either : s.mem.store addr size.bytes (s.mem.load addr size.bytes ||| (s.reg src).value) =
      written s.mem addr size.bytes (value s.mem addr size.bytes ||| (s.reg src).value.toNat) := by
    rw [stored, BitVec.toNat_or, load_toNat]
  have both : s.mem.store addr size.bytes (s.mem.load addr size.bytes &&& (s.reg src).value) =
      written s.mem addr size.bytes (value s.mem addr size.bytes &&& (s.reg src).value.toNat) := by
    rw [stored, BitVec.toNat_and, load_toNat]
  have differing : s.mem.store addr size.bytes (s.mem.load addr size.bytes ^^^ (s.reg src).value) =
      written s.mem addr size.bytes (value s.mem addr size.bytes ^^^ (s.reg src).value.toNat) := by
    rw [stored, BitVec.toNat_xor, load_toNat]
  rcases codes with rfl | rfl | rfl | rfl | rfl | rfl | rfl | rfl | rfl | rfl
  all_goals
    simp [memAtomic, bind_run, ofExcept_run, passes, readMem, getReg, read_run, ite_run, other, bpfAtomicFetch,
      bpfAtomicAdd, bpfAtomicOr, bpfAtomicAnd, bpfAtomicXor, writeMem, update_run, onlyIf, setReg, pure_run]
  · exact machine_update s addr size _ sum
  · exact machine_fetch s addr size _ src sum
  · exact machine_update s addr size _ either
  · exact machine_fetch s addr size _ src either
  · exact machine_update s addr size _ both
  · exact machine_fetch s addr size _ src both
  · exact machine_update s addr size _ differing
  · exact machine_fetch s addr size _ src differing
  · exact machine_fetch s addr size _ src (stored _)
  · have swaps := expected_iff s addr size (s.reg 0).value
    have exchange : s.machine.atomic 241 addr size.bytes src =
        (if value s.mem addr size.bytes = (s.reg 0).value.toNat % 256 ^ size.bytes then
          s.machine.write addr size.bytes (s.reg src).value.toNat
        else s.machine).assign 0 (.ofNat 64 (value s.mem addr size.bytes)) := rfl
    by_cases same : s.mem.load addr size.bytes = ((s.reg 0).value.setWidth (8 * size.bytes)).setWidth 64
    · rw [fetched_mem, fetched_reg, if_pos same]
      refine ⟨_, rfl, (machine_fetch s addr size _ 0 (stored _)).trans ?_⟩
      rw [exchange, if_pos (swaps.mp same)]
    · rw [fetched_mem, fetched_reg, if_neg same]
      refine ⟨_, rfl, (machine_set s 0 _ _).trans ?_⟩
      rw [exchange, if_neg (mt swaps.mpr same), ← load_eq]
      rfl

variable {src : Reg}

theorem memAtomic_follows (writable : Writable base off size s.pc)
    (listed : atomicCodes.contains imm.toNat) (quiet : Quiet tail)
    (run : arm s.fetched = (memAtomic size opc base off src imm s.pc >>= fun _ => tail) s.fetched) :
    Follows env s.pc ((s.machine.atomic imm.toNat (address base.value off) size.bytes src).goto 0)
      (proceed arm s.fetched) := by
  obtain ⟨t, atomic, machine⟩ := memAtomic_machine src s writable listed
  obtain ⟨spills, after⟩ := quiet t
  rw [bind_run, atomic] at run
  exact Follows.proceed (run.trans after) machine

def Opcode.operation : Opcode → Option Operation
  | .ldDwImm | .call | .exit => none
  | .ldReg size => some (.load size)
  | .ldsxReg size => some (.loadSigned size)
  | .stImm size => some (.storeImm size)
  | .stReg size => some (.store size)
  | .stWAtomic => some (.atomic .w)
  | .stDwAtomic => some (.atomic .dw)
  | .alu32 op source => some (.alu .word op source)
  | .le => some .toLe
  | .be => some .toBe
  | .bswap => some .bswap
  | .alu64 op source => some (.alu .double op source)
  | .ja => some .ja
  | .jmp op source => some (.jmp .double op source)
  | .ja32 => some .jaLong
  | .jmp32 op source => some (.jmp .word op source)

/-- The opcodes of the classes ALU, ALU64, JMP, JMP32, LDX, ST and STX except CALL and EXIT. -/
def Covered (opc : BitVec 8) : Prop := opc.toNat % 8 ≠ 0 ∧ opc ≠ Opcode.call.byte ∧ opc ≠ Opcode.exit.byte

instance (opc : BitVec 8) : Decidable (Covered opc) := inferInstanceAs (Decidable (_ ∧ _ ∧ _))

theorem operation_opcode (covered : Covered opc) : operation opc = (opcode opc).bind Opcode.operation := by
  have table : ∀ opc : BitVec 8, Covered opc → operation opc = (opcode opc).bind Opcode.operation := by
    decide +kernel
  exact table opc covered

/-- Arithmetic on 64 bits has untagged operands, and memory is accessed where the interpreter allows it. -/
def Operands (s : State ω) (insn : Insn) (dst src : Reg) : Operation → Prop
  | .alu .double _ source => (s.reg dst).region = none ∧ (source = .reg → (s.reg src).region = none)
  | .load size | .loadSigned size => Accessible (s.reg src) insn.off size s.pc
  | .storeImm size | .store size | .atomic size => Writable (s.reg dst) insn.off size s.pc
  | _ => True

variable {o : Opcode} {p : Operation}

theorem execute_follows (operation : o.operation = some p) (operands : Operands s insn dst src p) (selected : p.selected insn) :
    Follows env s.pc (p.perform insn dst src s.machine) (execute env o insn dst src (s.pc + 1) s.fetched) := by
  cases o with
  | ldDwImm | call | exit => cases operation
  | ldReg size =>
    cases operation
    cases size with
    | dw =>
      refine load_follows (restoredRegion env s.spillTracker (s.reg src) insn.off) (memLoad_run s.fetched operands) ?_
      simp only [ldDwReg, bind_run, getReg, read_run, fetched_reg, Nat.add_sub_cancel, memLoad_run s.fetched operands]
      rfl
    | b | h | w => exact load_follows none (memLoad_run s.fetched operands) rfl
  | ldsxReg size =>
    cases operation
    exact load_follows none (memLoadSignExtend_run s.fetched operands) rfl
  | stImm size =>
    cases operation
    exact memStore_follows (insn.imm.signExtend 64) operands (modifySpill_quiet _ _) rfl
  | stReg size =>
    cases operation
    cases size with
    | dw => exact memStore_follows (s.reg src).value operands (spillOrInvalidate_quiet (s.reg dst) (s.reg src) insn) rfl
    | b | h | w => exact memStore_follows (s.reg src).value operands (modifySpill_quiet _ _) rfl
  | stWAtomic | stDwAtomic =>
    cases operation
    exact memAtomic_follows operands selected (modifySpill_quiet _ _) rfl
  | alu32 op source =>
    cases operation
    exact execAlu32_follows dst src s selected
  | alu64 op source =>
    cases operation
    exact execAlu64_follows dst src s operands.1 operands.2 selected
  | le =>
    cases operation
    exact execSwap_follows dst s (byteSwap_truncates _ selected)
  | be | bswap =>
    cases operation
    exact execSwap_follows dst s (byteSwap_reverses _ selected)
  | ja | ja32 =>
    cases operation
    exact jump_follows s _
  | jmp op source =>
    cases operation
    exact compare_follows src (fun x y => by rw [holds_condition, Width.bits, BitVec.setWidth_eq, BitVec.setWidth_eq]) rfl
  | jmp32 op source =>
    cases operation
    exact compare_follows src (fun x y => holds_condition _ _ _) rfl

/-! ## Refused encodings -/

def atomicOps : List (BitVec 32) := [bpfAtomicAdd, bpfAtomicOr, bpfAtomicAnd, bpfAtomicXor, 0xe0, 0xf0]

def Opcode.Refuses (insn : Insn) : Opcode → Prop
  | .alu32 .mov .imm => insn.off ≠ 0
  | .alu32 .mov .reg => insn.off ≠ 0 ∧ insn.off ≠ 8 ∧ insn.off ≠ 16
  | .alu64 .mov .reg => insn.off ≠ 0 ∧ insn.off ≠ 8 ∧ insn.off ≠ 16 ∧ insn.off ≠ 32
  | .le | .be | .bswap => insn.imm ≠ 16 ∧ insn.imm ≠ 32 ∧ insn.imm ≠ 64
  | .stWAtomic | .stDwAtomic => insn.imm &&& ~~~bpfAtomicFetch ∉ atomicOps
  | _ => False

theorem Follows.known {next : Machine} {run : Except Stop (Option (BitVec 64)) × State ω}
    (follows : Follows env pc next run) (pc' : Nat) (opc : BitVec 8) : run.1 ≠ .error (.err (.unknownOpcode pc' opc)) := by
  rcases follows with ⟨s', rfl, _⟩ | ⟨_, left⟩
  · simp
  · rw [left, jumpError]
    split_ifs <;> simp

theorem alu32_accepts (d b : BitVec 64)
    (accepted : ¬(Opcode.alu32 op source).Refuses insn) : ∃ v, alu32 op source insn.off d b = some v := by
  cases op with
  | mov =>
    cases source with
    | imm =>
      have off : insn.off = 0 := by simpa [Opcode.Refuses] using accepted
      simp [alu32, off]
    | reg =>
      have variant : insn.off = 0 ∨ insn.off = 8 ∨ insn.off = 16 := by
        simp only [Opcode.Refuses] at accepted
        by_contra others
        simp_all
      rcases variant with off | off | off
      all_goals simp [alu32, off]
  | div | mod =>
    simp only [alu32]
    split
    all_goals exact ⟨_, rfl⟩
  | _ => exact ⟨_, rfl⟩

theorem alu64_accepts (pc : Nat) {d b : TaggedReg} (plain : d.region = none) (plain' : b.region = none)
    (accepted : ¬(Opcode.alu64 op source).Refuses insn) : ∃ v, alu64 op source insn pc d b = .ok v := by
  cases op with
  | mov =>
    cases source with
    | imm => exact ⟨_, rfl⟩
    | reg =>
      have variant : insn.off = 0 ∨ insn.off = 8 ∨ insn.off = 16 ∨ insn.off = 32 := by
        simp only [Opcode.Refuses] at accepted
        by_contra others
        simp_all
      rcases variant with off | off | off | off
      all_goals simp [alu64, off]
  | add | sub => simp [alu64, addRegion, subRegion, plain, plain', Except.map]
  | or | and | xor => simp [alu64, bitwise, plain, plain']
  | div | mod =>
    simp only [alu64]
    split
    all_goals exact ⟨_, rfl⟩
  | mul | lsh | rsh | neg | arsh => exact ⟨_, rfl⟩

theorem memAtomic_accepts (src : Reg) (s : State ω) (writable : Writable base off size s.pc)
    (accepted : imm &&& ~~~bpfAtomicFetch ∈ atomicOps) :
    ∃ t, memAtomic size opc base off src imm s.pc s.fetched = (.ok (), t) := by
  obtain ⟨region, addr, passes, other⟩ := writable
  simp only [atomicOps, List.mem_cons, List.not_mem_nil, or_false] at accepted
  rcases accepted with code | code | code | code | code | code
  all_goals
    simp [memAtomic, bind_run, ofExcept_run, passes, readMem, getReg, read_run, ite_run, other, code, fetched_reg,
      fetched_mem, bpfAtomicAdd, bpfAtomicOr, bpfAtomicAnd, bpfAtomicXor, writeMem, update_run, onlyIf, setReg,
      pure_run]
  case inr.inr.inr.inr.inr =>
    by_cases same : s.mem.load addr size.bytes = ((s.reg 0).value.setWidth (8 * size.bytes)).setWidth 64
    · rw [if_pos same]
      exact ⟨_, rfl⟩
    · rw [if_neg same]
      exact ⟨_, rfl⟩
  all_goals
    split
    · exact ⟨_, rfl⟩
    · exact ⟨_, rfl⟩

theorem proceed_accepts {t : State ω} (run : arm s = (.ok (), t)) (pc : Nat) (opc : BitVec 8) :
    (proceed arm s).1 ≠ .error (.err (.unknownOpcode pc opc)) := by
  rw [proceed, bind_run, run]
  simp [pure_run]

theorem atomic_accepts (writable : Writable base off size s.pc) (accepted : imm &&& ~~~bpfAtomicFetch ∈ atomicOps)
    (quiet : Quiet tail) (run : arm s.fetched = (memAtomic size opc base off src imm s.pc >>= fun _ => tail) s.fetched)
    (pc : Nat) (opc' : BitVec 8) : (proceed arm s.fetched).1 ≠ .error (.err (.unknownOpcode pc opc')) := by
  obtain ⟨t, atomic⟩ := memAtomic_accepts src s writable accepted
  obtain ⟨spills, after⟩ := quiet t
  rw [bind_run, atomic] at run
  exact proceed_accepts (run.trans after) pc opc'

theorem execute_accepts (operation : o.operation = some p) (operands : Operands s insn dst src p)
    (accepted : ¬o.Refuses insn) (pc : Nat) (opc : BitVec 8) :
    (execute env o insn dst src (s.pc + 1) s.fetched).1 ≠ .error (.err (.unknownOpcode pc opc)) := by
  by_cases selected : p.selected insn
  · exact (execute_follows operation operands selected).known pc opc
  cases o with
  | ldDwImm | call | exit => cases operation
  | ldReg | ldsxReg | stImm | stReg | ja | jmp | ja32 | jmp32 =>
    cases operation
    exact absurd rfl selected
  | le | be | bswap =>
    cases operation
    refine absurd ?_ selected
    simp only [Opcode.Refuses] at accepted
    simp only [Operation.selected, List.contains_cons, List.contains_nil]
    by_contra others
    simp at others
    bv_omega
  | alu32 op source =>
    obtain ⟨b, fetched, value, _⟩ := operand_run source insn src s
    obtain ⟨v, result⟩ := alu32_accepts (s.reg dst).value b.value accepted
    apply proceed_accepts (t := { s.fetched with reg := Function.update s.reg dst (.scalar (v.setWidth 64)) })
    simp only [execAlu32, bind_run, getReg, read_run, fetched, fetched_reg, result, Option.map_some, setScalar,
      setReg, update_run]
  | alu64 op source =>
    cases operation
    obtain ⟨b, fetched, value, untagged⟩ := operand_run source insn src s
    obtain ⟨v, result⟩ := alu64_accepts (s.pc + 1) operands.1 (untagged operands.2) accepted
    apply proceed_accepts (t := { s.fetched with reg := Function.update s.reg dst v })
    simp only [execAlu64, bind_run, getReg, read_run, fetched, ofExcept_run, fetched_reg, result, setReg, update_run]
  | stWAtomic | stDwAtomic =>
    cases operation
    have code : insn.imm &&& ~~~bpfAtomicFetch ∈ atomicOps := Decidable.not_not.mp accepted
    exact atomic_accepts operands code (modifySpill_quiet _ _) rfl pc opc

theorem opcode_some (found : opcode opc = some o) : o.byte = opc := by
  have matched := List.find?_some found
  simpa using matched

theorem memAtomic_refused (writable : Writable base off size s.pc) (refused : imm &&& ~~~bpfAtomicFetch ∉ atomicOps)
    (run : arm s.fetched = (memAtomic size opc base off src imm s.pc >>= fun _ => tail) s.fetched) :
    (proceed arm s.fetched).1 = .error (.err (.unknownOpcode s.pc opc)) := by
  obtain ⟨region, addr, passes, other⟩ := writable
  simp only [atomicOps, List.mem_cons, List.not_mem_nil, or_false, not_or] at refused
  obtain ⟨add, or, and, xor, xchg, cmpxchg⟩ := refused
  rw [proceed, bind_run, run]
  simp only [memAtomic, bind_run, ofExcept_run, passes, readMem, getReg, read_run, if_neg add, if_neg or, if_neg and,
    if_neg xor, if_neg xchg, if_neg cmpxchg, err, stop_run]

theorem execute_refused (operation : o.operation = some p) (operands : Operands s insn dst src p)
    (refused : o.Refuses insn) (byte : o.byte = insn.opc) :
    (execute env o insn dst src (s.pc + 1) s.fetched).1 = .error (.err (.unknownOpcode s.pc insn.opc)) := by
  cases o with
  | ldDwImm | call | exit => cases operation
  | ldReg | ldsxReg | stImm | stReg | ja | jmp | ja32 | jmp32 => exact refused.elim
  | le | be | bswap =>
    obtain ⟨half, word, double⟩ := refused
    simp only [execute, proceed, execSwap, bind_run, getReg, read_run, byteSwap, if_neg half, if_neg word,
      if_neg double, setScalar, err, stop_run, Nat.add_sub_cancel]
  | alu32 op source =>
    obtain ⟨b, fetched, _⟩ := operand_run source insn src s
    have result : alu32 op source insn.off (s.reg dst).value b.value = none := by
      cases op with
      | mov =>
        cases source with
        | imm => simp only [alu32, if_neg refused]
        | reg =>
          obtain ⟨plain, byte, half⟩ := refused
          simp only [alu32, if_neg plain, if_neg byte, if_neg half]
      | _ => exact refused.elim
    simp only [execute, proceed, execAlu32, bind_run, getReg, read_run, fetched, fetched_reg, result,
      Option.map_none, setScalar, err, stop_run, Nat.add_sub_cancel]
  | alu64 op source =>
    obtain ⟨b, fetched, _⟩ := operand_run source insn src s
    have result : alu64 op source insn (s.pc + 1) (s.reg dst) b = .error (.err (.unknownOpcode s.pc insn.opc)) := by
      cases op with
      | mov =>
        cases source with
        | imm => exact refused.elim
        | reg =>
          obtain ⟨plain, byte, half, word⟩ := refused
          simp only [alu64, if_neg plain, if_neg byte, if_neg half, if_neg word, Nat.add_sub_cancel]
      | _ => exact refused.elim
    simp only [execute, proceed, execAlu64, bind_run, getReg, read_run, fetched, fetched_reg, ofExcept_run, result]
  | stWAtomic | stDwAtomic =>
    cases operation
    rw [← byte]
    exact memAtomic_refused operands refused rfl

theorem covered_operation (covered : Covered opc) (found : opcode opc = some o) : ∃ p, o.operation = some p := by
  cases opcode_some found
  cases o with
  | ldDwImm => exact absurd rfl covered.1
  | call => exact absurd rfl covered.2.1
  | exit => exact absurd rfl covered.2.2
  | _ => exact ⟨_, rfl⟩

def Refused (insn : Insn) : Prop := ¬(insn.dst ≤ 10 ∧ insn.src ≤ 10) ∨ ∀ o, opcode insn.opc = some o → o.Refuses insn

/-- The turn does what the standard says: the step of its machine, or `UnknownOpcode` where it defines none. -/
def Conforms (env : Env ω) (s : State ω) (insn : Insn) : Prop :=
  match step insn s.machine with
  | some next => Follows env s.pc next (iterate env s)
  | none => (iterate env s).1 = .error (.err (.unknownOpcode s.pc insn.opc))

theorem iterate_conforms_iff (env : Env ω) (s : State ω) (insn : Insn) (charged : (charge env s.pc s).1 = .ok ())
    (fetch : getInsn env.prog s.pc = some insn) (covered : Covered insn.opc)
    (operands : ∀ (dst src : Reg) p, insn.dst = dst.val → insn.src = src.val → Rfc9669.operation insn.opc = some p →
      Operands s insn dst src p) : Conforms env s insn ↔ Rfc9669.Defined insn ∨ Refused insn := by
  have turn := iterate_charged charged fetch
  have table := operation_opcode covered
  unfold Conforms step Defined Refused
  rw [turn, dispatch]
  by_cases named : insn.dst ≤ 10 ∧ insn.src ≤ 10
  · rw [dif_pos named, dif_pos named, table]
    rw [table] at operands
    cases found : opcode insn.opc with
    | none => simp [err, stop_run]
    | some o =>
      obtain ⟨p, operation⟩ := covered_operation covered found
      have operands := operands ⟨insn.dst, by omega⟩ ⟨insn.src, by omega⟩ p rfl rfl (by simp [found, operation])
      simp only [Option.bind_some, operation]
      by_cases permitted : p.permits insn
      · have selected : p.selected insn := (Bool.and_eq_true _ _ ▸ permitted).1
        have follows : Follows env s.pc _ _ := execute_follows operation operands selected
        simp only [if_pos permitted]
        exact ⟨fun _ => .inl ⟨named, p, rfl, permitted⟩, fun _ => follows⟩
      · simp only [if_neg permitted]
        by_cases refused : o.Refuses insn
        · have stops : (execute env o insn _ _ _ _).1 = _ :=
            execute_refused operation operands refused (opcode_some found)
          exact ⟨fun _ => .inr (.inr fun o' same => by cases same; exact refused), fun _ => stops⟩
        · have runs : (execute env o insn _ _ _ _).1 ≠ _ := execute_accepts operation operands refused s.pc insn.opc
          refine ⟨fun stops => absurd stops runs, ?_⟩
          rintro (⟨_, p', same, permitted'⟩ | unnamed | refuses)
          · cases same
            exact absurd permitted' permitted
          · exact absurd named unnamed
          · exact absurd (refuses o rfl) refused
  · simp [named, err, stop_run]

def bareEnv (prog : List (BitVec 8)) : Env Unit where
  prog := prog
  ctxBase := 0x1000
  ctxLen := 8
  helpers := []
  maps := []
  readOnlyCtx := true
  instructionBudget := 10
  ctxPtrs := []
  stackBase := 0x8000
  overflowChecks := true

-- `r0 += 7; exit`
def addsSeven : List (BitVec 8) := [0x07, 0, 0, 0, 7, 0, 0, 0, 0x95, 0, 0, 0, 0, 0, 0, 0]

theorem iterate_conforms_adds :
    Conforms (bareEnv addsSeven) (initial (bareEnv addsSeven) (fun _ => 0) ()) ⟨0x07, 0, 0, 0, 7⟩ := by
  refine (iterate_conforms_iff _ _ _ (by decide +kernel) (by decide) (by decide) ?_).mpr (.inl ⟨by decide, ?_⟩)
  · intro dst src p dstReg srcReg operation
    cases operation
    have first : dst = 0 := Fin.ext dstReg.symm
    subst first
    exact ⟨rfl, nofun⟩
  · exact ⟨_, rfl, by decide⟩

-- DIV with offset 2 and MOV of an immediate with offset 1, each with `exit`. The 32-bit MOV with offset 1 is refused.
def dividesByTwo : List (BitVec 8) := [0xb7, 0, 0, 0, 7, 0, 0, 0, 0x37, 0, 2, 0, 2, 0, 0, 0, 0x95, 0, 0, 0, 0, 0, 0, 0]

def movesFive (opc : BitVec 8) : List (BitVec 8) := [opc, 0, 1, 0, 5, 0, 0, 0, 0x95, 0, 0, 0, 0, 0, 0, 0]

theorem undefined_executed : (Rfc9669.step ⟨0x37, 0, 0, 2, 2⟩ ⟨fun _ => 0, fun _ => 0, 0⟩).isNone ∧
      (Rfc9669.step ⟨0xb7, 0, 0, 1, 5⟩ ⟨fun _ => 0, fun _ => 0, 0⟩).isNone ∧
      [dividesByTwo, movesFive 0xb7, movesFive 0xb4].map
          (fun prog => (executeProgram (bareEnv prog) 11 (fun _ => 0) ()).map (·.1)) =
        [some (.ok 3), some (.ok 5), some (.error (.err (.unknownOpcode 0 0xb4)))] := by
  decide +kernel

end Sonde.Bpf
