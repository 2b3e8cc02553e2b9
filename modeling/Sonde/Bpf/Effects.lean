import Sonde.Bpf.Interpreter

/-!
# What an instruction leaves alone

Loads, stores and arithmetic change the registers that they name, the memory and the spill tracker. The call frames
change through local calls and `EXIT` only, the instruction count through `LD_DW_IMM` only.
-/

namespace Sonde.Bpf
open Lib Lib.Program

inductive Part where
  | reg (r : Reg)
  | frames
  | count
  | byte (a : BitVec 64)
  | tracker

abbrev Part.Value : Part → Type
  | .reg _ => TaggedReg
  | .frames => List CallFrame
  | .count => BitVec 64
  | .byte _ => BitVec 8
  | .tracker => SpillTracker

variable {ω : Type} {env : Env ω}

def State.part (p : Part) (s : State ω) : p.Value :=
  match p with
  | .reg r => s.reg r
  | .frames => s.callFrames
  | .count => s.insnCount
  | .byte a => s.mem a
  | .tracker => s.spillTracker

variable {α : Type} {p : Part}

abbrev Leaves (p : Part) (m : M ω α) : Prop := Fixes (State.part p) m

@[grind ←] theorem err_leaves (e : BpfError) : Leaves p (err e : M ω α) := fun _ => rfl
@[grind ←] theorem panicked_leaves : Leaves p (panicked : M ω α) := fun _ => rfl
@[grind ←] theorem getReg_leaves (r : Reg) : Leaves p (getReg r : M ω TaggedReg) := fun _ => rfl
@[grind ←] theorem getPc_leaves : Leaves p (getPc : M ω Nat) := fun _ => rfl

@[grind ←] theorem setPc_leaves (pc : Nat) : Leaves p (setPc pc : M ω Unit) := by
  cases p <;> exact fun _ => rfl

@[grind ←] theorem readMem_leaves (addr : BitVec 64) (len : Nat) : Leaves p (readMem addr len : M ω (BitVec 64)) := by
  cases p <;> exact fun _ => rfl

@[grind ←] theorem writeMem_leaves {addr : BitVec 64} {len : Nat}
    (apart : ∀ a, p = .byte a → ¬(a - addr).toNat < len) (val : BitVec 64) : Leaves p (writeMem addr len val : M ω Unit) := by
  cases p with
  | byte a => exact fun _ => Mem.store_apart (apart a rfl)
  | _ => exact fun _ => rfl

@[grind ←] theorem modifySpill_leaves (other : p ≠ .tracker) (f : SpillTracker → SpillTracker) :
    Leaves p (modifySpill f : M ω Unit) := by
  cases p with
  | tracker => exact absurd rfl other
  | _ => exact fun _ => rfl

variable {dst src : Reg}

@[grind ←] theorem setReg_leaves (other : p ≠ .reg dst) (v : TaggedReg) : Leaves p (setReg dst v : M ω Unit) := by
  cases p with
  | reg r =>
    have apart : r ≠ dst := by simpa using other
    simp [Fixes, State.part, setReg, Program.update, apart]
  | _ => exact fun _ => rfl

@[grind ←] theorem addU64_leaves (x y : BitVec 64) : Leaves p (addU64 env x y) := by grind [addU64]

@[grind ←] theorem subU64_leaves (x y : BitVec 64) : Leaves p (subU64 env x y) := by grind [subU64]

@[grind ←] theorem memLoad_leaves (size : Size) (base : TaggedReg) (off : BitVec 16) (pc : Nat) :
    Leaves p (memLoad size base off pc : M ω (BitVec 64)) := by
  grind [memLoad]

section
variable {size : Size} {base : TaggedReg} {off : BitVec 16} {pc : Nat}

theorem checked_leaves {len : Nat} {f : Region × BitVec 64 → M ω α}
    (rest : ∀ region, Leaves p (f (region, base.address off))) :
    Leaves p (ofExcept (checkAccess base off len pc) >>= f) := by
  cases ok : checkAccess base off len pc with
  | error e => exact fun _ => rfl
  | ok access =>
    obtain ⟨region, addr⟩ := access
    obtain ⟨-, rfl, -⟩ := checkAccess_ok ok
    exact rest region

variable (apart : ∀ a, p = .byte a → ¬(a - base.address off).toNat < size.bytes)
include apart

theorem memStore_leaves (val : BitVec 64) (pc : Nat) : Leaves p (memStore size base off val pc : M ω Unit) :=
  checked_leaves fun _ => .onlyIf (writeMem_leaves apart val)

-- CMPXCHG, which also has the fetch bit, returns the old value in r0.
def fetches (op : BitVec 32) : Bool :=
  let baseOp := op &&& ~~~bpfAtomicFetch
  baseOp = 0xe0 || op &&& bpfAtomicFetch ≠ 0 && baseOp ∈ [bpfAtomicAdd, bpfAtomicOr, bpfAtomicAnd, bpfAtomicXor]

theorem memAtomic_leaves {op : BitVec 32} (source : fetches op = true → p ≠ .reg src) (result : p ≠ .reg 0) (opc : BitVec 8)
    (pc : Nat) : Leaves p (memAtomic size opc base off src op pc : M ω Unit) := by
  refine checked_leaves fun region => .bind (readMem_leaves _ _) fun old => .bind (getReg_leaves src) fun srcReg => ?_
  have rmw (new : BitVec 64) (known : op &&& ~~~bpfAtomicFetch ∈ [bpfAtomicAdd, bpfAtomicOr, bpfAtomicAnd, bpfAtomicXor]) :
      Leaves p (do
      onlyIf (¬decide (region.tag = .context)) (writeMem (base.address off) size.bytes new)
      onlyIf (decide (op &&& bpfAtomicFetch ≠ 0)) (setReg src (.scalar old)) : M ω Unit) := by
    refine .bind (.onlyIf (writeMem_leaves apart _)) fun _ => ?_
    by_cases fetch : op &&& bpfAtomicFetch ≠ 0
    · exact .onlyIf (setReg_leaves (source (by simpa [fetches, known] using .inr fetch)) _)
    · rw [onlyIf, if_neg (by grind)]
      exact .pure ()
  dsimp only
  split_ifs with add or and xor exchange
  · exact rmw _ (by simp [add])
  · exact rmw _ (by simp [or])
  · exact rmw _ (by simp [and])
  · exact rmw _ (by simp [xor])
  · have fetch : fetches op = true := by simp [fetches, exchange]
    exact .bind (.onlyIf (writeMem_leaves apart _)) fun _ => setReg_leaves (source fetch) _
  · exact .bind (getReg_leaves 0) fun r0 =>
      .bind (.onlyIf (writeMem_leaves apart _)) fun _ => setReg_leaves result _
  · exact err_leaves _

end

@[grind ←] theorem invalidateStack_leaves (other : p ≠ .tracker) (size : Size) (base : TaggedReg) (off : BitVec 16) :
    Leaves p (invalidateStack env size base off) := by
  grind [invalidateStack]

def spillOrInvalidate (env : Env ω) (base value : TaggedReg) (insn : Insn) : M ω Unit :=
  match value.region with
  | some region =>
    if (base.address insn.off - env.stackBase).toNat % 8 = 0 then
      onlyIf base.isStack (modifySpill fun tracker => tracker.recordSpill env.stackBase (base.address insn.off) region)
    else invalidateStack env .dw base insn.off
  | none => invalidateStack env .dw base insn.off

theorem spillOrInvalidate_leaves (other : p ≠ .tracker) (base value : TaggedReg) (insn : Insn) :
    Leaves p (spillOrInvalidate env base value insn) := by
  unfold spillOrInvalidate
  cases value.region with
  | none => exact invalidateStack_leaves other _ _ _
  | some region => grind

@[grind ←] theorem operand_leaves (source : Source) (insn : Insn) (src : Reg) :
    Leaves p (operand source insn src : M ω TaggedReg) := by
  cases source <;> grind [operand]

@[grind ←] theorem setScalar_leaves (other : p ≠ .reg dst) (insn : Insn) (pc : Nat) (result : Option (BitVec 64)) :
    Leaves p (setScalar insn dst pc result : M ω Unit) := by
  cases result <;> grind [setScalar]

theorem charge_leaves (other : p ≠ .count) (pc : Nat) : Leaves p (charge env pc) := by
  refine .bind (.read _) fun _ => .bind (addU64_leaves _ _) fun count => ?_
  refine .bind ?_ fun _ => .onlyIf (err_leaves _)
  cases p with
  | count => exact absurd rfl other
  | _ => exact fun _ => rfl

variable {insn : Insn} {pc : Nat}

theorem ldDwImm_leaves (register : p ≠ .reg dst) (count : p ≠ .count) : Leaves p (ldDwImm env insn dst src) := by
  refine .bind getPc_leaves fun pc => .ite (err_leaves _) ?_
  cases getInsn env.prog pc with
  | none => exact panicked_leaves
  | some next =>
    refine .bind (setPc_leaves _) fun _ => .bind (charge_leaves count _) fun _ => ?_
    grind

@[grind ←] theorem jump_leaves (pc : Nat) (offset : Int) : Leaves p (jump env pc offset) := by grind [jump]

theorem answered_leaves (spared : ∀ r : Reg, p = .reg r → ¬r ≤ 5) (ret : HelperReturn) (result : BitVec 64) : Leaves p (do
      let r0 ← helperResult env pc ret result
      setReg 0 r0
      clobber) := by
  refine .bind ?_ fun r0 => .bind (setReg_leaves (fun same => spared 0 same (by decide)) r0) fun _ => ?_
  · cases ret with
    | scalar => exact .pure _
    | mapValueOrNull mapArg => grind [helperResult]
  · cases p with
    | reg r =>
      have high : ¬(1 ≤ r.val ∧ r.val ≤ 5) := fun low => spared r rfl low.2
      exact fun s => if_neg high
    | _ => exact fun _ => rfl

theorem callLocal_leaves (frames : p ≠ .frames) (pointer : p ≠ .reg 10) : Leaves p (callLocal env insn pc) := by
  have pushes (f : State ω → State ω) (pushed : ∀ s, ∃ frames, f s = { s with callFrames := frames }) :
      Leaves p (Program.update f : M ω Unit) := by
    intro s
    obtain ⟨callFrames, same⟩ := pushed s
    cases p with
    | frames => exact absurd rfl frames
    | _ => simp [Program.update, same, State.part]
  refine .bind (.read _) fun depth => .ite (err_leaves _) (.bind (pushes _ fun s => ⟨_, rfl⟩) fun _ => ?_)
  grind

theorem exit_leaves (frames : p ≠ .frames) (spared : ∀ r : Reg, p = .reg r → r < 6) : Leaves p (exit env) := by
  refine .bind (.read _) fun called => ?_
  cases called with
  | nil => grind
  | cons frame rest =>
    refine .bind ?_ fun _ => ?_
    · cases p with
      | frames => exact absurd rfl frames
      | reg r =>
        have low : ¬(6 ≤ r.val ∧ r.val ≤ 9) := fun high => absurd (spared r rfl) (Nat.not_lt.mpr high.1)
        exact fun s => dif_neg low
      | _ => exact fun _ => rfl
    · have below : p ≠ .reg 10 := fun same => absurd (spared 10 same) (by decide)
      grind

/-! ## One instruction -/

def Opcode.stored : Opcode → Option Nat
  | .stImm size | .stReg size => some size.bytes
  | .stWAtomic => some Size.w.bytes
  | .stDwAtomic => some Size.dw.bytes
  | _ => none

def Opcode.mayWrite (o : Opcode) (insn : Insn) (dst src : Reg) (r : Option Reg) : Bool :=
  match o with
  | .stImm _ | .stReg _ => false
  | .stWAtomic | .stDwAtomic => r = some 0 || (fetches insn.imm && r = some src)
  | .ja | .jmp .. | .ja32 | .jmp32 .. | .call | .exit => false
  | _ => r = some dst

def memAfter (desc : HelperDescriptor ω) (s : State ω) : Mem :=
  (desc.func (s.reg 1).value (s.reg 2).value (s.reg 3).value (s.reg 4).value (s.reg 5).value s.mem s.host).2.1

def Opcode.Spares (o : Opcode) (env : Env ω) (insn : Insn) (dst src : Reg) (s : State ω) : Part → Prop
  | .reg r => o.mayWrite insn dst src (some r) = false ∧ (o = .call → ¬r ≤ 5 ∧ (src = 1 → r ≠ 10)) ∧ (o = .exit → r < 6)
  | .frames => (o = .call → src ≠ 1) ∧ o ≠ .exit
  | .count => o ≠ .ldDwImm
  | .byte a => (∀ len, o.stored = some len → ¬(a - (s.reg dst).address insn.off).toNat < len) ∧
      (o = .call → ∀ desc, env.helpers.find? (·.id = insn.imm) = some desc → memAfter desc s a = s.mem a)
  | .tracker => o.stored = none

variable {s : State ω} {o : Opcode}

theorem call_leaves (spared : Opcode.call.Spares env insn dst src s p) : (call env insn src pc s).2.part p = s.part p := by
  unfold call
  split
  · unfold callHelper
    cases found : env.helpers.find? (·.id = insn.imm) with
    | none => rfl
    | some desc =>
      have low (r : Reg) (same : p = .reg r) : ¬r ≤ 5 := by
        subst same
        exact (spared.2.1 rfl).1
      refine (Fixes.after (fun result => answered_leaves low desc.ret result) s).trans ?_
      cases p with
      | byte a => exact spared.2 rfl desc found
      | _ => rfl
  · split
    · rename_i localCall
      refine callLocal_leaves ?_ ?_ s
      · rintro rfl
        exact spared.1 rfl localCall
      · rintro rfl
        exact (spared.2.1 rfl).2 localCall rfl
    · rfl

theorem execute_leaves (spared : o.Spares env insn dst src s p) : (execute env o insn dst src pc s).2.part p = s.part p := by
  have arm {m : M ω Unit} (left : (m s).2.part p = s.part p) : (proceed m s).2.part p = s.part p :=
    (Fixes.after (fun _ => .pure none) s).trans left
  have register (writes : o.mayWrite insn dst src (some dst) = true) : p ≠ .reg dst := by
    rintro rfl
    exact absurd spared.1 (by simp [writes])
  have tracker (stores : o.stored ≠ none) : p ≠ .tracker := by
    rintro rfl
    exact stores spared
  have apart {len : Nat} (stores : o.stored = some len) (a : BitVec 64) (same : p = .byte a) :
      ¬(a - (s.reg dst).address insn.off).toNat < len := by
    subst same
    exact spared.1 len stores
  have atomic {size : Size} (opc : BitVec 8) (stores : o.stored = some size.bytes)
      (writes : ∀ r, o.mayWrite insn dst src r = (r = some 0 || (fetches insn.imm && r = some src))) :
      Leaves p (do
        memAtomic size opc (s.reg dst) insn.off src insn.imm (pc - 1)
        invalidateStack env size (s.reg dst) insn.off : M ω Unit) := by
    refine .bind (memAtomic_leaves (apart stores) ?_ ?_ opc _) fun _ =>
      invalidateStack_leaves (tracker (by simp [stores])) _ _ _
    · rintro fetch rfl
      simpa [writes, fetch] using spared.1
    · rintro rfl
      simpa [writes] using spared.1
  cases o with
  | ldDwImm =>
    refine arm (ldDwImm_leaves (register (by simp [Opcode.mayWrite])) ?_ s)
    rintro rfl
    exact spared rfl
  | ldReg size =>
    have other := register (by simp [Opcode.mayWrite])
    cases size <;> exact arm (Fixes.bind (getReg_leaves _) (by grind) s)
  | ldsxReg size | alu32 op source | le | be | bswap | alu64 op source =>
    have other := register (by simp [Opcode.mayWrite])
    exact arm (Fixes.bind (getReg_leaves _) (by grind [memLoadSignExtend]) s)
  | stImm size =>
    exact arm (Fixes.bind (memStore_leaves (apart rfl) _ _) (fun _ => invalidateStack_leaves (tracker nofun) _ _ _) s)
  | stReg size =>
    cases size with
    | dw => exact arm (Fixes.bind (memStore_leaves (apart rfl) _ _) (fun _ => spillOrInvalidate_leaves (tracker nofun) _ _ _) s)
    | b | h | w =>
      exact arm (Fixes.bind (memStore_leaves (apart rfl) _ _) (fun _ => invalidateStack_leaves (tracker nofun) _ _ _) s)
  | stWAtomic | stDwAtomic => exact arm (atomic _ rfl (fun _ => rfl) s)
  | ja | ja32 => exact arm (jump_leaves _ _ s)
  | jmp op source | jmp32 op source => exact arm (Fixes.bind (getReg_leaves _) (by grind) s)
  | call => exact arm (call_leaves spared)
  | exit =>
    refine exit_leaves ?_ ?_ s
    · rintro rfl
      exact spared.2 rfl
    · rintro r rfl
      exact spared.2.2 rfl

theorem execute_left {r : Except Stop (Option (BitVec 64))} {s' : State ω} (run : execute env o insn dst src pc s = (r, s'))
    (spared : o.Spares env insn dst src s p) : s'.part p = s.part p := by
  rw [← execute_leaves spared, run]

end Sonde.Bpf
