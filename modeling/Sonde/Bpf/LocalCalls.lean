import Sonde.Bpf.Budget

namespace Sonde.Bpf
open Lib.Program List

variable {ω : Type} {env : Env ω}

/-! ## One turn -/

def Insn.writesFp (insn : Insn) : Bool :=
  if named : insn.dst ≤ 10 ∧ insn.src ≤ 10 then
    (opcode insn.opc).any fun o => o.mayWrite insn ⟨insn.dst, Insn.dst_lt named⟩ ⟨insn.src, Insn.src_lt named⟩ (some 10)
  else false

inductive FrameStep (env : Env ω) (s s' : State ω) : Prop
  | stay (frames : s'.callFrames = s.callFrames)
      (fp : (∀ insn, getInsn env.prog s.pc = some insn → insn.writesFp = false) → s'.reg 10 = s.reg 10)
  | enter (frames : s'.callFrames =
        ⟨fun i => s.reg (savedReg i), s.pc + 1, BitVec.ofNat 64 stackSizePerFrame⟩ :: s.callFrames)
      (fp : s'.reg 10 = ⟨(s.reg 10).value - BitVec.ofNat 64 stackSizePerFrame, (s.reg 10).region⟩)
  | leave {frame : CallFrame} (frames : s.callFrames = frame :: s'.callFrames)
      (saved : ∀ i, s'.reg (savedReg i) = frame.saved i)
      (fp : s'.reg 10 = ⟨(s.reg 10).value + frame.frameSize, (s.reg 10).region⟩)

variable {s s' : State ω} {insn : Insn}

theorem execute_callLocal {dst src : Reg} {pc : Nat} (localCall : src = 1)
    (run : execute env .call insn dst src pc s = (.ok none, s')) : callLocal env insn pc s = (.ok (), s') := by
  obtain ⟨_, t, called, rest⟩ := bind_ok run
  cases rest
  simpa [call, localCall] using called

theorem callLocal_step {pc : Nat} (run : callLocal env insn pc s = (.ok (), s')) :
    s'.callFrames = ⟨fun i => s.reg (savedReg i), pc, BitVec.ofNat 64 stackSizePerFrame⟩ :: s.callFrames ∧
      s'.reg 10 = ⟨(s.reg 10).value - BitVec.ofNat 64 stackSizePerFrame, (s.reg 10).region⟩ := by
  obtain ⟨depth, _, read, run⟩ := bind_ok run
  cases read
  split at run
  · cases run
  obtain ⟨_, _, pushed, run⟩ := bind_ok run
  cases pushed
  obtain ⟨_, _, read, run⟩ := bind_ok run
  cases read
  obtain ⟨top, _, lowered, run⟩ := bind_ok run
  unfold subU64 at lowered
  split at lowered
  · cases lowered
  cases lowered
  obtain ⟨_, _, set, run⟩ := bind_ok run
  cases set
  have frames := (jump_leaves (p := .frames) pc _).ok run
  have pointer := (jump_leaves (p := .reg 10) pc _).ok run
  exact ⟨frames, pointer.trans (by simp [State.part])⟩

theorem exit_step (run : exit env s = (.ok none, s')) :
    ∃ frame, s.callFrames = frame :: s'.callFrames ∧ (∀ i, s'.reg (savedReg i) = frame.saved i) ∧
      s'.reg 10 = ⟨(s.reg 10).value + frame.frameSize, (s.reg 10).region⟩ := by
  obtain ⟨frames, _, read, run⟩ := bind_ok run
  cases read
  cases frames : s.callFrames with
  | nil =>
    rw [frames] at run
    cases run
  | cons frame rest =>
    rw [frames] at run
    obtain ⟨_, _, popped, run⟩ := bind_ok run
    cases popped
    obtain ⟨_, _, read, run⟩ := bind_ok run
    cases read
    obtain ⟨top, _, raised, run⟩ := bind_ok run
    unfold addU64 at raised
    split at raised
    · cases raised
    cases raised
    cases run
    have r10 : ¬(6 ≤ (10 : Reg).val ∧ (10 : Reg).val ≤ 9) := by decide
    refine ⟨frame, rfl, ?_, by simp only [Function.update_self, dif_neg r10]⟩
    intro i
    have below : savedReg i ≠ 10 := by
      simp only [savedReg, ne_eq, Fin.ext_iff]
      omega
    have range : 6 ≤ (savedReg i).val ∧ (savedReg i).val ≤ 9 := by
      simp only [savedReg]
      omega
    have index : (⟨(savedReg i).val - 6, by omega⟩ : Fin 4) = i := by simp [savedReg]
    simp [below, range, index]

theorem iterate_frames (action : iterate env s = (.ok none, s')) : (s'.callFrames = s.callFrames ∧
        ((∀ insn, getInsn env.prog s.pc = some insn → insn.writesFp = false) → s'.reg 10 = s.reg 10)) ∨
      (∃ insn, getInsn env.prog s.pc = some insn ∧ opcode insn.opc = some .call ∧ insn.src = 1 ∧
        callLocal env insn (s.pc + 1) s.fetched = (.ok (), s')) ∨ exit env s.fetched = (.ok none, s') := by
  obtain ⟨insn, o, dst, src, fetch, op, run⟩ := iterate_ok action
  by_cases returns : o = .exit
  · subst returns
    exact .inr (.inr run)
  by_cases localCall : o = .call ∧ insn.src = 1
  · obtain ⟨rfl, localCall⟩ := localCall
    exact .inr (.inl ⟨insn, fetch, op, localCall, execute_callLocal (Fin.ext localCall) run⟩)
  have outside (isCall : o = .call) : (⟨insn.src, by omega⟩ : Reg) ≠ 1 := fun same =>
    localCall ⟨isCall, congrArg Fin.val same⟩
  have frames := execute_left (p := .frames) run ⟨outside, returns⟩
  refine .inl ⟨frames, fun unwritten => ?_⟩
  have spared := unwritten insn fetch
  simp only [Insn.writesFp, dst, src, and_self, dite_true, op, Option.any_some] at spared
  have pointer := execute_left (p := .reg 10) run
    ⟨spared, fun isCall => ⟨by decide, fun same => absurd same (outside isCall)⟩, fun isExit => absurd isExit returns⟩
  exact pointer

theorem iterate_frameStep (action : iterate env s = (.ok none, s')) : FrameStep env s s' := by
  rcases iterate_frames action with ⟨frames, fp⟩ | ⟨insn, -, -, -, run⟩ | run
  · exact .stay frames fp
  · obtain ⟨frames, fp⟩ := callLocal_step run
    exact .enter frames fp
  · obtain ⟨frame, frames, saved, fp⟩ := exit_step run
    exact .leave frames saved fp

/-! ## From the call to the matching exit -/

inductive CalleeRun (env : Env ω) (depth : Nat) (entry : State ω) : State ω → Prop
  | entry : CalleeRun env depth entry entry
  | turn {s s' : State ω} (run : CalleeRun env depth entry s) (inside : s.pc < env.numInsns)
      (action : iterate env s = (.ok none, s')) (deep : depth < s'.callFrames.length) : CalleeRun env depth entry s'

structure LocalCall (env : Env ω) (s s' : State ω) : Prop where
  inside : s.pc < env.numInsns
  call : ∃ insn, getInsn env.prog s.pc = some insn ∧ opcode insn.opc = some .call ∧ insn.src = 1
  action : iterate env s = (.ok none, s')

def State.frame (s : State ω) : CallFrame := ⟨fun i => s.reg (savedReg i), s.pc + 1, BitVec.ofNat 64 stackSizePerFrame⟩

/-- In the callee, the caller's frame lies under the frames of the inner calls, and r10 is below the caller's by their sizes
if no instruction has written it. -/
structure InCallee (env : Env ω) (s entry : State ω) (inner : List CallFrame) (t : State ω) : Prop where
  frames : t.callFrames = inner ++ s.frame :: s.callFrames
  fp : (∀ u, CalleeRun env s.callFrames.length entry u → ∀ insn, getInsn env.prog u.pc = some insn →
      insn.writesFp = false) →
    t.reg 10 = ⟨(s.reg 10).value - BitVec.ofNat 64 stackSizePerFrame - (inner.map (·.frameSize)).sum, (s.reg 10).region⟩

theorem LocalCall.enters (call : LocalCall env s s') : InCallee env s s' [] s' := by
  obtain ⟨insn, o, dst, src, fetch, op, run⟩ := iterate_ok call.action
  obtain ⟨insn', fetch', isCall, localCall⟩ := call.call
  cases fetch.symm.trans fetch'
  cases op.symm.trans isCall
  obtain ⟨frames, fp⟩ := callLocal_step (execute_callLocal (Fin.ext localCall) run)
  have lowered : s'.reg 10 = ⟨(s.reg 10).value - BitVec.ofNat 64 stackSizePerFrame, (s.reg 10).region⟩ := fp
  exact ⟨frames, fun _ => by simpa using lowered⟩

theorem calleeRun_inCallee {entry t : State ω} (call : LocalCall env s entry)
    (run : CalleeRun env s.callFrames.length entry t) : ∃ inner, InCallee env s entry inner t := by
  induction run with
  | entry => exact ⟨[], call.enters⟩
  | turn run inside action deep ih =>
    obtain ⟨inner, callee⟩ := ih
    rcases iterate_frameStep action with ⟨frames, fp⟩ | ⟨frames, fp⟩ | ⟨frames, saved, fp⟩
    · refine ⟨inner, frames.trans callee.frames, fun unwritten => ?_⟩
      exact (fp (unwritten _ run)).trans (callee.fp unwritten)
    · refine ⟨_ :: inner, by rw [frames, callee.frames, cons_append], fun unwritten => ?_⟩
      rw [fp, callee.fp unwritten]
      simp only [map_cons, sum_cons, TaggedReg.mk.injEq, and_true]
      bv_omega
    · cases inner with
      | nil =>
        have popped := frames.symm.trans callee.frames
        simp only [nil_append, cons.injEq] at popped
        rw [popped.2] at deep
        omega
      | cons top inner =>
        have popped := frames.symm.trans callee.frames
        simp only [cons_append, cons.injEq] at popped
        refine ⟨inner, popped.2, fun unwritten => ?_⟩
        rw [fp, callee.fp unwritten, popped.1]
        simp only [map_cons, sum_cons, TaggedReg.mk.injEq, and_true]
        bv_omega

theorem localCall_preserves (env : Env ω) (s entry t s' : State ω) (call : LocalCall env s entry)
    (callee : CalleeRun env s.callFrames.length entry t) (exits : iterate env t = (.ok none, s'))
    (matching : s'.callFrames.length = s.callFrames.length) : (∀ i, s'.reg (savedReg i) = s.reg (savedReg i)) ∧
      ((∀ u, CalleeRun env s.callFrames.length entry u → ∀ insn, getInsn env.prog u.pc = some insn →
          insn.writesFp = false) → s'.reg 10 = s.reg 10) := by
  obtain ⟨inner, inCallee⟩ := calleeRun_inCallee call callee
  have depth := congrArg length inCallee.frames
  simp only [length_append, length_cons] at depth
  rcases iterate_frameStep exits with ⟨frames, _⟩ | ⟨frames, _⟩ | ⟨frames, saved, fp⟩
  · have same := congrArg length frames
    omega
  · have same := congrArg length frames
    simp only [length_cons] at same
    omega
  · have popped := frames.symm.trans inCallee.frames
    cases inner with
    | nil =>
      simp only [nil_append, cons.injEq] at popped
      rw [popped.1] at saved fp
      refine ⟨saved, fun unwritten => ?_⟩
      rw [fp, inCallee.fp unwritten]
      simp [State.frame]
    | cons top inner =>
      have same := congrArg length popped
      simp at same
      omega

-- `call +1; exit; r6 = 5; exit`, and the same with `r10 += 8` in the callee.
def callEnv (prog : List (BitVec 8)) : Env Unit where
  prog := prog
  ctxBase := 0x1000
  ctxLen := 8
  helpers := []
  maps := []
  readOnlyCtx := true
  instructionBudget := 10
  ctxPtrs := []
  stackBase := 0x8000
  overflowChecks := true

def callAnd (body : List (BitVec 8)) : List (BitVec 8) :=
  [0x85, 0x10, 0, 0, 1, 0, 0, 0, 0x95, 0, 0, 0, 0, 0, 0, 0] ++ body ++ [0x95, 0, 0, 0, 0, 0, 0, 0]

def movesFp : Env Unit := callEnv (callAnd [0x07, 0x0a, 0, 0, 8, 0, 0, 0])

def setsR6 : Env Unit := callEnv (callAnd [0xb7, 0x06, 0, 0, 5, 0, 0, 0])

def after (env : Env Unit) : Nat → State Unit
  | 0 => initial env (fun _ => 0) ()
  | n + 1 => (iterate env (after env n)).2

theorem localCall_loses_fp : ∃ s entry t s', Running movesFp (fun _ => 0) () s ∧ LocalCall movesFp s entry ∧
      CalleeRun movesFp s.callFrames.length entry t ∧ iterate movesFp t = (.ok none, s') ∧
      s'.callFrames.length = s.callFrames.length ∧ s'.reg 10 ≠ s.reg 10 := by
  refine ⟨after movesFp 0, after movesFp 1, after movesFp 2, after movesFp 3, .start (by decide), ⟨by decide, ?_, ?_⟩, ?_, ?_,
    by decide +kernel, by decide +kernel⟩
  · exact ⟨_, rfl, rfl, rfl⟩
  · exact Prod.ext (by decide +kernel) rfl
  · exact .turn .entry (by decide +kernel) (Prod.ext (by decide +kernel) rfl) (by decide +kernel)
  · exact Prod.ext (by decide +kernel) rfl

theorem setsR6_writesFp (idx : Nat) (insn : Insn) (fetch : getInsn setsR6.prog idx = some insn) :
    insn.writesFp = false := by
  match idx with
  | 0 | 1 | 2 | 3 =>
    cases fetch
    decide +kernel
  | n + 4 =>
    have none : getInsn setsR6.prog (n + 4) = none := by
      unfold getInsn
      rw [drop_eq_nil_of_le]
      · rfl
      · simp only [setsR6, callEnv, callAnd, length_append, length_cons, length_nil, insnSize]
        omega
    cases none.symm.trans fetch

theorem localCall_preserves_r6 : (after setsR6 2).reg 6 = .scalar 5 ∧ (after setsR6 3).reg 6 = .zeroed ∧
      (after setsR6 3).reg 10 = (after setsR6 0).reg 10 := by
  have call : LocalCall setsR6 (after setsR6 0) (after setsR6 1) :=
    ⟨by decide, ⟨_, rfl, rfl, rfl⟩, Prod.ext (by decide +kernel) rfl⟩
  have callee : CalleeRun setsR6 0 (after setsR6 1) (after setsR6 2) :=
    .turn .entry (by decide +kernel) (Prod.ext (by decide +kernel) rfl) (by decide +kernel)
  obtain ⟨saved, fp⟩ := localCall_preserves setsR6 (after setsR6 0) (after setsR6 1) (after setsR6 2) (after setsR6 3)
    call callee (Prod.ext (by decide +kernel) rfl) (by decide +kernel)
  exact ⟨by decide +kernel, saved 0, fp fun u _ => setsR6_writesFp u.pc⟩

end Sonde.Bpf
