import Sonde.Bpf.Budget
import Sonde.Bpf.Confinement

/-!
# Where the interpreter panics

The plain `-=` and `+=` on r10 in local calls, the target of a jump by `imm` and the map index of a helper's descriptor
argument are the only operations of the loop that can panic when the budget is not `UNLIMITED_BUDGET`.
-/

namespace Sonde.Bpf
open Lib.Program

variable {ω : Type} {env : Env ω}

def Stop.IsPanic (e : Stop) : Prop := e = .panicked

abbrev Calm {α : Type} (m : M ω α) : Prop := Avoids Stop.IsPanic m

theorem err_isPanic (e : BpfError) : ¬(Stop.err e).IsPanic := by simp [Stop.IsPanic]

/-! ## Operations that do not panic -/

variable {α : Type}

@[grind ←] theorem err_calm (e : BpfError) : Calm (err e : M ω α) := .stop (err_isPanic e)
@[grind ←] theorem getReg_calm (r : Reg) : Calm (getReg r : M ω TaggedReg) := .read _
@[grind ←] theorem setReg_calm (r : Reg) (v : TaggedReg) : Calm (setReg r v : M ω Unit) := .update _
@[grind ←] theorem modifySpill_calm (f : SpillTracker → SpillTracker) : Calm (modifySpill f : M ω Unit) := .update _
@[grind ←] theorem writeMem_calm (addr : BitVec 64) (len : Nat) (val : BitVec 64) :
    Calm (writeMem addr len val : M ω Unit) := .update _

@[grind ←] theorem readMem_calm (addr : BitVec 64) (len : Nat) : Calm (readMem addr len : M ω (BitVec 64)) := by
  intro s e left
  cases left

variable {pc : Nat} {e : Stop}

theorem checkAccess_error {base : TaggedReg} {off : BitVec 16} {len : Nat}
    (failed : checkAccess base off len pc = .error e) : ¬e.IsPanic := by
  unfold checkAccess at failed
  split at failed
  · cases failed
    exact err_isPanic _
  · dsimp only at failed
    split_ifs at failed
    all_goals
      cases failed
      exact err_isPanic _

@[grind ←] theorem checkAccess_calm (base : TaggedReg) (off : BitVec 16) (len pc : Nat) :
    Calm (ofExcept (checkAccess base off len pc) : M ω (Region × BitVec 64)) :=
  .ofExcept fun _ failed => checkAccess_error failed

variable {insn : Insn}

theorem alu64_error {op : AluOp} {source : Source} {d b : TaggedReg}
    (failed : alu64 op source insn pc d b = .error e) : ¬e.IsPanic := by
  cases op with
  | add | sub =>
    simp only [alu64, Except.map] at failed
    split at failed
    · rename_i refused
      cases failed
      simp only [addRegion, subRegion] at refused
      split at refused
      all_goals try split_ifs at refused
      all_goals cases refused
      all_goals exact err_isPanic _
    · cases failed
  | or | and | xor =>
    simp only [alu64, bitwise] at failed
    split at failed
    · cases failed
      exact err_isPanic _
    · cases failed
  | mov =>
    simp only [alu64] at failed
    cases source with
    | imm => cases failed
    | reg =>
      split_ifs at failed
      cases failed
      exact err_isPanic _
  | div | mod =>
    simp only [alu64] at failed
    split at failed
    all_goals cases failed
  | mul | lsh | rsh | neg | arsh => cases failed

theorem mapAt_error {index : BitVec 32} (failed : mapAt env pc index = .error e) : ¬e.IsPanic := by
  unfold mapAt at failed
  split at failed
  · cases failed
    exact err_isPanic _
  · split at failed
    · cases failed
      exact err_isPanic _
    · cases failed

theorem mapValueAt_error {map : MapRegion} {offset : BitVec 32}
    (failed : mapValueAt pc map offset = .error e) : ¬e.IsPanic := by
  simp only [mapValueAt] at failed
  split_ifs at failed
  all_goals
    cases failed
    exact err_isPanic _

theorem jump_panics {offset : Int} {s : State ω} (inside : env.numInsns < 2 ^ (env.pointerWidth - 1)) :
    (jump env pc offset s).1 = .error .panicked ↔
      env.overflowChecks = true ∧ 2 ^ (env.pointerWidth - 1) ≤ (pc : Int) + offset := by
  have bound : (env.numInsns : Int) < 2 ^ (env.pointerWidth - 1) := mod_cast inside
  simp only [jump, checkJump, jumpError, bind_run, ofExcept_run]
  split_ifs with outside beyond
  · simp [beyond]
  · simp [beyond]
  · simp only [setPc, update_run, reduceCtorEq, false_iff]
    omega

@[grind ←] theorem jump_calm {offset : Int} (inside : env.numInsns < 2 ^ (env.pointerWidth - 1))
    (near : (pc : Int) + offset < 2 ^ (env.pointerWidth - 1)) : Calm (jump env pc offset) := by
  rintro s _ failed rfl
  exact absurd ((jump_panics inside).mp failed).2 (not_le.mpr near)

@[grind ←] theorem memStore_calm (size : Size) (base : TaggedReg) (off : BitVec 16) (val : BitVec 64) (pc : Nat) :
    Calm (memStore size base off val pc : M ω Unit) := by
  grind [memStore]

@[grind ←] theorem memAtomic_calm (size : Size) (opc : BitVec 8) (base : TaggedReg) (off : BitVec 16) (src : Reg)
    (op : BitVec 32) (pc : Nat) : Calm (memAtomic size opc base off src op pc : M ω Unit) := by
  grind [memAtomic]

@[grind ←] theorem invalidateStack_calm (size : Size) (base : TaggedReg) (off : BitVec 16) :
    Calm (invalidateStack env size base off) := by
  grind [invalidateStack]

theorem stDwReg_calm (insn : Insn) (dst src : Reg) (pc : Nat) : Calm (stDwReg env insn dst src pc) := by
  unfold stDwReg
  refine .bind (getReg_calm dst) fun base => .bind (getReg_calm src) fun value => ?_
  refine .bind (memStore_calm _ _ _ _ _) fun _ => ?_
  cases value.region with
  | none => exact invalidateStack_calm _ _ _
  | some region => grind

@[grind ←] theorem operand_calm (source : Source) (insn : Insn) (src : Reg) :
    Calm (operand source insn src : M ω TaggedReg) := by
  cases source <;> grind [operand]

@[grind ←] theorem setScalar_calm (insn : Insn) (dst : Reg) (pc : Nat) (result : Option (BitVec 64)) :
    Calm (setScalar insn dst pc result : M ω Unit) := by
  cases result <;> grind [setScalar]

@[grind ←] theorem execAlu64_calm (op : AluOp) (source : Source) (insn : Insn) (dst src : Reg) (pc : Nat) :
    Calm (execAlu64 op source insn dst src pc : M ω Unit) := by
  refine .bind (getReg_calm dst) fun d => .bind (operand_calm _ _ _) fun b => ?_
  exact .bind (.ofExcept fun _ failed => alu64_error failed) fun _ => setReg_calm _ _

@[grind ←] theorem proceed_calm {arm : M ω Unit} (h : Calm arm) : Calm (proceed arm) := by grind [proceed]

variable {src : Reg}

theorem execute_calm {o : Opcode} {dst : Reg} (inside : env.numInsns < 2 ^ (env.pointerWidth - 1))
    (near : (pc : Int) + insn.off.toInt < 2 ^ (env.pointerWidth - 1))
    (other : o ≠ .ldDwImm ∧ o ≠ .ja32 ∧ o ≠ .call ∧ o ≠ .exit) : Calm (execute env o insn dst src pc) := by
  cases o with
  | ldReg size => cases size <;> grind [execute, ldDwReg, ldReg, memLoad]
  | stReg size =>
    cases size with
    | dw => exact proceed_calm (stDwReg_calm _ _ _ _)
    | b | h | w => grind [execute, stReg]
  | ldDwImm | ja32 | call | exit => simp at other
  | _ =>
    grind [execute, ldsxReg, memLoadSignExtend, stImm, stWAtomic, stDwAtomic, memAtomic32, memAtomic64, execAlu32,
      execSwap, execJmp, execJmp32]

/-! ## The operations that may panic -/

theorem Calm.not_panicked {m : M ω α} (calm : Calm m) (s : State ω) : (m s).1 ≠ .error .panicked :=
  fun failed => calm s .panicked failed rfl

variable {s : State ω}

theorem bind_panics {β : Type} {m : M ω α} {f : α → M ω β} (calm : ∀ a, Calm (f a)) :
    ((m >>= f) s).1 = .error .panicked ↔ (m s).1 = .error .panicked := by
  rw [bind_run]
  cases run : m s with
  | mk result s' =>
    cases result with
    | ok a => exact ⟨fun failed => ((calm a).not_panicked _ failed).elim, fun failed => by cases failed⟩
    | error e => simp

theorem callLocal_panics (inside : env.numInsns < 2 ^ (env.pointerWidth - 1)) :
    (callLocal env insn pc s).1 = .error .panicked ↔
      s.callFrames.length < maxCallDepth ∧ env.overflowChecks = true ∧
        ((s.reg 10).value.toNat < stackSizePerFrame ∨ 2 ^ (env.pointerWidth - 1) ≤ (pc : Int) + insn.imm.toInt) := by
  simp only [callLocal, bind_run, read_run, ite_run]
  have size : (BitVec.ofNat 64 stackSizePerFrame).toNat = stackSizePerFrame := rfl
  by_cases deep : s.callFrames.length ≥ maxCallDepth
  · simp only [if_pos deep, err, stop_run, Except.error.injEq, reduceCtorEq, false_iff]
    omega
  · simp only [if_neg deep, update_run, getReg, read_run, subU64, ite_run, size]
    by_cases low : env.overflowChecks ∧ (s.reg 10).value.toNat < stackSizePerFrame
    · simp only [if_pos low, panicked, stop_run]
      exact ⟨fun _ => ⟨by omega, low.1, .inl low.2⟩, fun _ => trivial⟩
    · simp only [if_neg low, pure_run, setReg, update_run, jump_panics inside]
      constructor
      · rintro ⟨checked, beyond⟩
        exact ⟨by omega, checked, .inr beyond⟩
      · rintro ⟨-, checked, small | beyond⟩
        · exact (low ⟨checked, small⟩).elim
        · exact ⟨checked, beyond⟩

theorem exit_panics : (exit env s).1 = .error .panicked ↔
      ∃ frame rest, s.callFrames = frame :: rest ∧ env.overflowChecks = true ∧
        2 ^ 64 ≤ (s.reg 10).value.toNat + frame.frameSize.toNat := by
  simp only [exit, bind_run, read_run]
  cases frames : s.callFrames with
  | nil => simp [bind_run, getReg, read_run, pure_run]
  | cons frame rest =>
    have r10 : ¬(6 ≤ (10 : Reg).val ∧ (10 : Reg).val ≤ 9) := by decide
    simp only [bind_run, update_run, getReg, read_run, addU64, ite_run, dif_neg r10]
    by_cases high : env.overflowChecks ∧ 2 ^ 64 ≤ (s.reg 10).value.toNat + frame.frameSize.toNat
    · simp only [if_pos high, panicked, stop_run, true_iff]
      exact ⟨frame, rest, rfl, high⟩
    · simp only [if_neg high, pure_run, setReg, update_run, reduceCtorEq, false_iff]
      rintro ⟨frame', rest', same, hazard⟩
      cases same
      exact high hazard

def HelperDescriptor.answer (desc : HelperDescriptor ω) (s : State ω) : BitVec 64 :=
  (desc.func (s.reg 1).value (s.reg 2).value (s.reg 3).value (s.reg 4).value (s.reg 5).value s.mem s.host).1

/-- A helper that returns `result` looks up the map of a descriptor whose index is outside the map list. -/
def IndexHazard (env : Env ω) (s : State ω) (ret : HelperReturn) (result : BitVec 64) : Prop :=
  result ≠ 0 ∧
    ∃ (mapArg : BitVec 8) (r : Reg) (mapIndex : BitVec 32) (base endAddr : BitVec 64),
      ret = .mapValueOrNull mapArg ∧ 1 ≤ mapArg.toNat ∧ mapArg.toNat ≤ 5 ∧ r.val = mapArg.toNat ∧
        (s.reg r).region = some ⟨.mapDescriptor mapIndex, base, endAddr⟩ ∧ env.maps.length ≤ mapIndex.toNat

theorem mapValueResult_panics {mapArg : BitVec 8} {arg : TaggedReg} {result : BitVec 64} :
    mapValueResult env pc mapArg arg result = .error .panicked ↔
      result ≠ 0 ∧ ∃ mapIndex base endAddr, arg.region = some ⟨.mapDescriptor mapIndex, base, endAddr⟩ ∧
        env.maps.length ≤ mapIndex.toNat := by
  unfold mapValueResult
  by_cases null : result = 0
  · simp [null]
  · rw [if_neg null]
    split
    · rename_i mapIndex base endAddr tag
      cases found : env.maps[mapIndex.toNat]? with
      | none =>
        have outside := List.getElem?_eq_none_iff.mp found
        simp only [true_iff]
        exact ⟨null, mapIndex, base, endAddr, tag, outside⟩
      | some map =>
        obtain ⟨bound, _⟩ := List.getElem?_eq_some_iff.mp found
        dsimp only
        split_ifs
        all_goals simp [tag, bound]
    · rename_i other
      simp only [Except.error.injEq, reduceCtorEq, false_iff]
      rintro ⟨_, mapIndex, base, endAddr, tag, _⟩
      exact other mapIndex base endAddr tag

theorem helperResult_panics {ret : HelperReturn} {result : BitVec 64} :
    (helperResult env pc ret result s).1 = .error .panicked ↔ IndexHazard env s ret result := by
  cases ret with
  | scalar => simp [helperResult, pure_run, IndexHazard]
  | mapValueOrNull mapArg =>
    simp only [helperResult]
    by_cases range : 1 ≤ mapArg.toNat ∧ mapArg.toNat ≤ 5
    · have lookup (x : Except Stop TaggedReg) :
          (ofExcept x s : Except Stop TaggedReg × State ω).1 = .error .panicked ↔ x = .error .panicked := by
        cases x <;> rfl
      simp only [dif_pos range, bind_run, getReg, read_run, lookup, mapValueResult_panics]
      constructor
      · rintro ⟨answer, mapIndex, base, endAddr, tag, outside⟩
        exact ⟨answer, mapArg, _, mapIndex, base, endAddr, rfl, range.1, range.2, rfl, tag, outside⟩
      · rintro ⟨answer, mapArg', r, mapIndex, base, endAddr, pointer, _, _, same, tag, outside⟩
        cases pointer
        have named : r = ⟨mapArg.toNat, by omega⟩ := Fin.ext same
        exact ⟨answer, mapIndex, base, endAddr, named ▸ tag, outside⟩
    · simp only [dif_neg range, err, stop_run, Except.error.injEq, reduceCtorEq, false_iff]
      rintro ⟨_, mapArg', _, _, _, _, pointer, lower, upper, _⟩
      cases pointer
      exact range ⟨lower, upper⟩

theorem callHelper_panics : (callHelper env insn pc s).1 = .error .panicked ↔
      ∃ desc, env.helpers.find? (·.id = insn.imm) = some desc ∧ IndexHazard env s desc.ret (desc.answer s) := by
  unfold callHelper
  cases found : env.helpers.find? (·.id = insn.imm) with
  | none => simp [err, stop_run]
  | some desc =>
    have calm (r0 : TaggedReg) : Calm (do setReg 0 r0; clobber : M ω Unit) := .bind (setReg_calm _ _) fun _ => .update _
    have only : (∃ desc', some desc = some desc' ∧ IndexHazard env s desc'.ret (desc'.answer s)) ↔
        IndexHazard env s desc.ret (desc.answer s) := by
      simp
    rw [only]
    exact (bind_panics calm).trans helperResult_panics

/-! ## Turns -/

inductive Hazard (env : Env ω) (s : State ω) : Prop
  | callLocal {insn : Insn} (fetch : getInsn env.prog s.pc = some insn) (call : opcode insn.opc = some .call)
      (dst : insn.dst ≤ 10) (src : insn.src = 1) (depth : s.callFrames.length < maxCallDepth)
      (checked : env.overflowChecks = true) (low : (s.reg 10).value.toNat < stackSizePerFrame ∨
        2 ^ (env.pointerWidth - 1) ≤ ((s.pc + 1 : Nat) : Int) + insn.imm.toInt)
  | jump {insn : Insn} (fetch : getInsn env.prog s.pc = some insn) (long : opcode insn.opc = some .ja32)
      (dst : insn.dst ≤ 10) (src : insn.src ≤ 10) (checked : env.overflowChecks = true)
      (beyond : 2 ^ (env.pointerWidth - 1) ≤ ((s.pc + 1 : Nat) : Int) + insn.imm.toInt)
  | exit {insn : Insn} {frame : CallFrame} {rest : List CallFrame} (fetch : getInsn env.prog s.pc = some insn)
      (exit : opcode insn.opc = some .exit) (dst : insn.dst ≤ 10) (src : insn.src ≤ 10)
      (frames : s.callFrames = frame :: rest) (checked : env.overflowChecks = true)
      (high : 2 ^ 64 ≤ (s.reg 10).value.toNat + frame.frameSize.toNat)
  | helper {insn : Insn} {desc : HelperDescriptor ω} (fetch : getInsn env.prog s.pc = some insn)
      (call : opcode insn.opc = some .call) (dst : insn.dst ≤ 10) (src : insn.src = 0 ∨ insn.src = 2)
      (found : env.helpers.find? (·.id = insn.imm) = some desc) (index : IndexHazard env s desc.ret (desc.answer s))

theorem ldDwImm_panics {dst : Reg} (metered : Metered env s) : (ldDwImm env insn dst src s).1 ≠ .error .panicked := by
  simp only [ldDwImm, bind_run, getPc, read_run]
  by_cases inside : s.pc < env.numInsns
  · obtain ⟨next, fetch⟩ := getInsn_some inside
    have moved : Metered env { s with pc := s.pc + 1 } := ⟨metered.limited, metered.count⟩
    simp only [if_neg (Nat.not_le.mpr inside), fetch, bind_run, setPc, update_run, moved.charge]
    by_cases spent : s.insnCount = env.instructionBudget
    · simp [if_pos spent]
    · simp only [if_neg spent]
      apply Calm.not_panicked
      refine .ite (setReg_calm _ _) (.ite ?_ (.ite ?_ (err_calm _)))
      · exact .bind (.ofExcept fun _ failed => mapAt_error failed) fun _ => setReg_calm _ _
      · refine .bind (.ofExcept fun _ failed => mapAt_error failed) fun _ => ?_
        exact .bind (.ofExcept fun _ failed => mapValueAt_error failed) fun _ => setReg_calm _ _
  · simp [if_pos (Nat.not_lt.mp inside), err, stop_run]

theorem proceed_panics {arm : M ω Unit} : (proceed arm s).1 = .error .panicked ↔ (arm s).1 = .error .panicked :=
  bind_panics fun _ => .pure _

theorem call_panics (inside : env.numInsns < 2 ^ (env.pointerWidth - 1)) :
    (call env insn src pc s).1 = .error .panicked ↔
      ((src = 0 ∨ src = 2) ∧ ∃ desc, env.helpers.find? (·.id = insn.imm) = some desc ∧
          IndexHazard env s desc.ret (desc.answer s)) ∨
        src = 1 ∧ s.callFrames.length < maxCallDepth ∧ env.overflowChecks = true ∧
          ((s.reg 10).value.toNat < stackSizePerFrame ∨ 2 ^ (env.pointerWidth - 1) ≤ (pc : Int) + insn.imm.toInt) := by
  simp only [call, ite_run]
  by_cases helper : src = 0 ∨ src = 2
  · have notLocal : src ≠ 1 := by
      rcases helper with rfl | rfl
      · decide
      · decide
    rw [if_pos helper, callHelper_panics]
    simp [helper, notLocal]
  · rw [if_neg helper]
    by_cases local1 : src = 1
    · rw [if_pos local1, callLocal_panics inside]
      simp [local1]
    · simp [helper, local1, err, stop_run]

variable {mem : Mem} {host : ω}

theorem running_metered (limited : env.instructionBudget ≠ unlimitedBudget)
    (running : Running env mem host s) : Metered env s := by
  induction running with
  | start ready => exact Metered.initial limited mem host
  | turn previous inside action ih => exact (ih.next inside action).1

section
variable (size : env.prog.length < 2 ^ (env.pointerWidth - 1)) (width : 32 ≤ env.pointerWidth)
include size

theorem numInsns_small : env.numInsns < 2 ^ (env.pointerWidth - 1) := (Nat.div_le_self _ _).trans_lt size

include width

-- The offset of a jump has 16 bits: the target of one that starts inside the program does not overflow.
theorem offset_near (inside : s.pc < env.numInsns) (off : BitVec 16) :
    ((s.pc + 1 : Nat) : Int) + off.toInt < 2 ^ (env.pointerWidth - 1) := by
  have wide : 2 ^ 31 ≤ 2 ^ (env.pointerWidth - 1) := Nat.pow_le_pow_right (by decide) (by omega)
  have high := off.toInt_lt
  simp only [Env.numInsns, insnSize] at inside
  zify at wide size
  omega

theorem dispatch_panics (inside : s.pc < env.numInsns) (fetch : getInsn env.prog s.pc = some insn)
    (metered : Metered env s.fetched) :
    (dispatch env insn (s.pc + 1) s.fetched).1 = .error .panicked ↔ Hazard env s := by
  have small := numInsns_small size
  unfold dispatch
  constructor
  · split
    · rename_i named
      cases o : opcode insn.opc with
      | none => exact fun failed => by cases failed
      | some op =>
        intro failed
        by_cases wide : op = .ldDwImm
        · subst wide
          exact (ldDwImm_panics metered (proceed_panics.mp failed)).elim
        by_cases isCall : op = .call
        · subst isCall
          rcases (call_panics small).mp (proceed_panics.mp failed) with ⟨src, desc, found, index⟩ | ⟨src, depth, checked, low⟩
          · exact .helper fetch o named.1 (by simpa [Fin.ext_iff] using src) found index
          · exact .callLocal fetch o named.1 (by simpa [Fin.ext_iff] using src) depth checked low
        by_cases isExit : op = .exit
        · subst isExit
          obtain ⟨frame, rest, frames, checked, high⟩ := exit_panics.mp failed
          exact .exit fetch o named.1 named.2 frames checked high
        by_cases long : op = .ja32
        · subst long
          obtain ⟨checked, beyond⟩ := (jump_panics small).mp (proceed_panics.mp failed)
          exact .jump fetch o named.1 named.2 checked beyond
        · have near := offset_near size width inside insn.off
          exact ((execute_calm small near ⟨wide, long, isCall, isExit⟩).not_panicked _ failed).elim
    · exact fun failed => by cases failed
  · intro hazard
    cases hazard with
    | callLocal fetch' call dst src depth checked low =>
      cases fetch.symm.trans fetch'
      rw [dif_pos ⟨dst, by omega⟩, call]
      exact proceed_panics.mpr ((call_panics small).mpr (.inr ⟨Fin.ext src, depth, checked, low⟩))
    | jump fetch' long dst src checked beyond =>
      cases fetch.symm.trans fetch'
      rw [dif_pos ⟨dst, src⟩, long]
      exact proceed_panics.mpr ((jump_panics small).mpr ⟨checked, beyond⟩)
    | exit fetch' exit dst src frames checked high =>
      cases fetch.symm.trans fetch'
      rw [dif_pos ⟨dst, src⟩, exit]
      exact exit_panics.mpr ⟨_, _, frames, checked, high⟩
    | helper fetch' call dst src found index =>
      cases fetch.symm.trans fetch'
      rw [dif_pos ⟨dst, by omega⟩, call]
      exact proceed_panics.mpr ((call_panics small).mpr (.inl ⟨src.imp Fin.ext Fin.ext, _, found, index⟩))

theorem iterate_panics (metered : Metered env s) (inside : s.pc < env.numInsns) :
    (iterate env s).1 = .error .panicked ↔ s.insnCount ≠ env.instructionBudget ∧ Hazard env s := by
  obtain ⟨insn, fetch⟩ := getInsn_some inside
  by_cases spent : s.insnCount = env.instructionBudget
  · simp [metered.refused spent, spent]
  rw [metered.admitted spent fetch, dispatch_panics size width inside fetch (metered.fetched spent)]
  simp [spent]

/-! ## Whole runs -/

theorem loop_calm (limited : env.instructionBudget ≠ unlimitedBudget)
    (calm : ∀ s, Running env mem host s → s.pc < env.numInsns → s.insnCount ≠ env.instructionBudget → ¬Hazard env s)
    {fuel : Nat} {final : State ω} {result : Except Stop (BitVec 64)} (running : Running env mem host s)
    (run : loop env fuel s = some (result, final)) : result ≠ .error .panicked := by
  induction fuel generalizing s with
  | zero => simp [loop] at run
  | succ fuel ih =>
    by_cases inside : s.pc < env.numInsns
    · have turn := iterate_panics size width (running_metered limited running) inside
      simp only [loop, inside, if_true] at run
      cases action : iterate env s with
      | mk outcome s' =>
        rw [action] at run turn
        cases outcome with
        | error e =>
          simp only [Option.some.injEq, Prod.mk.injEq] at run
          intro panics
          cases run.1.trans panics
          obtain ⟨admitted, hazard⟩ := turn.mp rfl
          exact calm s running inside admitted hazard
        | ok value =>
          cases value with
          | none => exact ih (running.turn inside action) run
          | some r0 =>
            simp only [Option.some.injEq, Prod.mk.injEq] at run
            simp [← run.1]
    · simp only [loop, inside, if_false, Option.some.injEq, Prod.mk.injEq] at run
      simp [← run.1]

theorem hazard_panics (running : Running env mem host s) (metered : Metered env s)
    (inside : s.pc < env.numInsns) (admitted : s.insnCount ≠ env.instructionBudget) (hazard : Hazard env s) :
    ∃ fuel final, loop env fuel (initial env mem host) = some (.error .panicked, final) := by
  obtain ⟨turns, passes⟩ := running.loop
  refine ⟨1 + turns, (iterate env s).2, ?_⟩
  have panics := (iterate_panics size width metered inside).mpr ⟨admitted, hazard⟩
  rw [passes]
  simp only [loop, inside, if_true]
  cases action : iterate env s with
  | mk outcome s' =>
    rw [action] at panics
    cases panics
    rfl

end

theorem executeProgram_panicFree_iff (env : Env ω) (width : 32 ≤ env.pointerWidth)
    (size : env.prog.length < 2 ^ (env.pointerWidth - 1)) (limited : env.instructionBudget ≠ unlimitedBudget)
    (stack : env.stackBase.toNat + stackSize < 2 ^ 64) (ctx : env.ctxBase.toNat + env.ctxLen < 2 ^ 64) (mem : Mem)
    (host : ω) : (∃ result final, executeProgram env (env.instructionBudget.toNat + 1) mem host = some (result, final) ∧
        result ≠ .error .panicked) ↔
      ∀ s, Running env mem host s → s.pc < env.numInsns → s.insnCount ≠ env.instructionBudget → ¬Hazard env s := by
  unfold executeProgram
  cases ready : prologue env with
  | error e =>
    have length : e = .err (.outOfBounds env.numInsns) := by
      simp only [prologue, if_neg (Nat.not_le.mpr stack), if_neg (Nat.not_le.mpr ctx)] at ready
      split at ready
      · cases ready
        rfl
      · cases ready
    constructor
    · intro _ s running
      cases ready.symm.trans running.ready
    · exact fun _ => ⟨_, _, rfl, by simp [length]⟩
  | ok _ =>
    have start : Running env mem host (initial env mem host) := .start ready
    constructor
    · rintro ⟨result, final, run, returned⟩ s running inside admitted hazard
      obtain ⟨fuel, last, panics⟩ := hazard_panics size width running (running_metered limited running) inside admitted hazard
      cases loop_unique env run panics
      exact returned rfl
    · intro calm
      have returns := loop_returns (Metered.initial limited mem host) (Nat.lt_succ_self _)
      obtain ⟨⟨result, final⟩, run⟩ := Option.isSome_iff_exists.mp returns
      exact ⟨result, final, run, loop_calm size width limited calm start run⟩

theorem executeProgram_panicFree_iff_spill : spillEnv.instructionBudget ≠ unlimitedBudget ∧
      ∀ s, Running spillEnv (fun _ => 0) () s → s.pc < spillEnv.numInsns → s.insnCount ≠ spillEnv.instructionBudget →
        ¬Hazard spillEnv s := by
  refine ⟨by decide, ?_⟩
  apply (executeProgram_panicFree_iff spillEnv (by decide) (by decide) (by decide) (by decide) (by decide) (fun _ => 0) ()).mp
  have run := (Option.some_get spillEnv_finishes).symm
  refine ⟨spillRun.1, spillRun.2, loop_le spillEnv (by decide) run, ?_⟩
  have returned : spillRun.1 = .ok 0 := by decide +kernel
  simp [returned]

def hazardEnv (prog : List (BitVec 8)) : Env Unit where
  prog := prog
  ctxBase := 0x1000
  ctxLen := 8
  helpers := [⟨1, fun _ _ _ _ _ mem host => (1, mem, host), .mapValueOrNull 1⟩]
  maps := []
  readOnlyCtx := true
  instructionBudget := 10
  ctxPtrs := [⟨0, ⟨.mapDescriptor 9, 0, 0⟩⟩]
  stackBase := 0x8000
  overflowChecks := true
  pointerWidth := 32

-- `r10 = 0; call +0; exit`
def lowFrame : List (BitVec 8) := [0xb7, 0x0a, 0, 0, 0, 0, 0, 0, 0x85, 0x10, 0, 0, 0, 0, 0, 0, 0x95, 0, 0, 0, 0, 0, 0, 0]

-- `call +1; exit; r10 = -1; exit`
def highFrame : List (BitVec 8) :=
  [0x85, 0x10, 0, 0, 1, 0, 0, 0, 0x95, 0, 0, 0, 0, 0, 0, 0, 0xb7, 0x0a, 0, 0, 0xff, 0xff, 0xff, 0xff, 0x95, 0, 0, 0, 0,
    0, 0, 0]

-- `r1 = *(u64 *)(r1 + 0); call helper 1; exit`
def wildDescriptor : List (BitVec 8) := [0x79, 0x11, 0, 0, 0, 0, 0, 0, 0x85, 0, 0, 0, 1, 0, 0, 0, 0x95, 0, 0, 0, 0, 0, 0, 0]

-- `goto +0x7fffffff; exit`
def longJump : List (BitVec 8) := [0x06, 0, 0, 0, 0xff, 0xff, 0xff, 0x7f, 0x95, 0, 0, 0, 0, 0, 0, 0]

theorem executeProgram_panics : [lowFrame, highFrame, wildDescriptor, longJump].map
        (fun prog => (executeProgram (hazardEnv prog) 11 (fun _ => 0) ()).map (·.1)) =
      List.replicate 4 (some (.error .panicked)) := by
  decide +kernel

end Sonde.Bpf
