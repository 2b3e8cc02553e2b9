import Sonde.Bpf.LocalCalls

/-!
# The frames of nested local calls

The entry function and each callee have the 512 bytes below their r10. A call lowers r10 by the size of a frame, so the
frames of the open calls lie next to each other, from the top of the stack buffer downwards.
-/

namespace Sonde.Bpf
open Lib.Program List

variable {ω : Type} {env : Env ω} {mem : Mem} {host : ω}

/-- The states at the head of the loop before which no instruction but `CALL` and `EXIT` has written r10. -/
inductive FpRunning (env : Env ω) (mem : Mem) (host : ω) : State ω → Prop
  | start (ready : prologue env = .ok ()) : FpRunning env mem host (initial env mem host)
  | turn {s s' : State ω} (running : FpRunning env mem host s) (inside : s.pc < env.numInsns)
      (spared : ∀ insn, getInsn env.prog s.pc = some insn → insn.writesFp = false)
      (action : iterate env s = (.ok none, s')) : FpRunning env mem host s'

def framePointers (fp : BitVec 64) : List CallFrame → List (BitVec 64)
  | [] => [fp]
  | frame :: callers => fp :: framePointers (fp + frame.frameSize) callers

def State.framePointers (s : State ω) : List (BitVec 64) := Bpf.framePointers (s.reg 10).value s.callFrames

def frameRange (fp : BitVec 64) : Set ℤ := Set.Ico (fp.toNat - stackSizePerFrame : ℤ) fp.toNat

def stackRange (env : Env ω) : Set ℤ := Set.Ico (env.stackBase.toNat : ℤ) (env.stackBase.toNat + stackSize)

structure FramesFit (env : Env ω) (s : State ω) : Prop where
  apart : s.framePointers.Pairwise fun a b => Disjoint (frameRange a) (frameRange b)
  inside : ∀ fp ∈ s.framePointers, frameRange fp ⊆ stackRange env
  usable : ∀ (off : BitVec 16) (len pc : Nat), -(stackSizePerFrame : ℤ) ≤ off.toInt → off.toInt + len ≤ 0 →
    checkAccess (s.reg 10) off len pc = .ok (env.stackRegion, (s.reg 10).address off)

structure Stacked (env : Env ω) (s : State ω) : Prop where
  fits : env.stackBase.toNat + stackSize < 2 ^ 64
  sizes : ∀ frame ∈ s.callFrames, frame.frameSize = BitVec.ofNat 64 stackSizePerFrame
  depth : s.callFrames.length ≤ maxCallDepth
  region : (s.reg 10).region = some env.stackRegion
  fp : (s.reg 10).value.toNat + stackSizePerFrame * s.callFrames.length = env.stackBase.toNat + stackSize

variable {s s' : State ω}

theorem callLocal_depth {insn : Insn} {pc : Nat} (run : callLocal env insn pc s = (.ok (), s')) :
    s.callFrames.length < maxCallDepth := by
  obtain ⟨depth, _, read, run⟩ := bind_ok run
  cases read
  split at run
  · cases run
  · rename_i shallow
    exact Nat.lt_of_not_le shallow

theorem Stacked.start (ready : prologue env = .ok ()) : Stacked env (initial env mem host) := by
  have fits := (prologue_ok ready).1
  refine ⟨fits, forall_mem_nil _, Nat.zero_le _, rfl, ?_⟩
  change (env.stackBase + BitVec.ofNat 64 stackSize).toNat + 0 = _
  bv_omega

theorem Stacked.turn (stacked : Stacked env s)
    (spared : ∀ insn, getInsn env.prog s.pc = some insn → insn.writesFp = false)
    (action : iterate env s = (.ok none, s')) : Stacked env s' := by
  have fits := stacked.fits
  have fp := stacked.fp
  have frameSize : stackSizePerFrame = 512 := rfl
  have size : stackSize = 4096 := rfl
  rw [frameSize, size] at fp
  rcases iterate_frames action with ⟨frames, kept⟩ | ⟨insn, -, -, -, run⟩ | run
  · have same := kept spared
    exact ⟨fits, frames ▸ stacked.sizes, frames ▸ stacked.depth, same ▸ stacked.region, by rw [same, frames, stacked.fp]⟩
  · obtain ⟨frames, lowered⟩ := callLocal_step run
    have shallow : s.fetched.callFrames.length < maxCallDepth := callLocal_depth run
    change s.callFrames.length < 8 at shallow
    refine ⟨fits, ?_, ?_, ?_, ?_⟩
    · rw [frames]
      exact forall_mem_cons.mpr ⟨rfl, stacked.sizes⟩
    · rw [frames]
      exact shallow
    · rw [lowered]
      exact stacked.region
    · rw [lowered, frames, length_cons, frameSize, size]
      change ((s.reg 10).value - BitVec.ofNat 64 512).toNat + 512 * (s.callFrames.length + 1) = _
      bv_omega
  · obtain ⟨frame, frames, -, raised⟩ := exit_step run
    change s.callFrames = _ at frames
    have sizes := stacked.sizes
    have depth := stacked.depth
    rw [frames] at sizes depth fp
    rw [length_cons] at depth fp
    obtain ⟨own, sizes⟩ := forall_mem_cons.mp sizes
    refine ⟨fits, sizes, by omega, ?_, ?_⟩
    · rw [raised]
      exact stacked.region
    · rw [raised, own, frameSize, size]
      change ((s.reg 10).value + BitVec.ofNat 64 512).toNat + _ = _
      bv_omega

theorem FpRunning.stacked (running : FpRunning env mem host s) : Stacked env s := by
  induction running with
  | start ready => exact .start ready
  | turn running inside spared action ih => exact ih.turn spared action

/-! ## The frames of a stacked state -/

section
variable {fp fp' : BitVec 64} {frame : CallFrame} {frames : List CallFrame}

theorem caller_fp (own : frame.frameSize = BitVec.ofNat 64 stackSizePerFrame)
    (fits : fp.toNat + stackSizePerFrame < 2 ^ 64) : (fp + frame.frameSize).toNat = fp.toNat + stackSizePerFrame := by
  bv_omega

variable (sizes : ∀ frame ∈ frames, frame.frameSize = BitVec.ofNat 64 stackSizePerFrame)

include sizes in
theorem framePointers_range
    (fits : fp.toNat + stackSizePerFrame * frames.length < 2 ^ 64) (member : fp' ∈ framePointers fp frames) :
    fp.toNat ≤ fp'.toNat ∧ fp'.toNat ≤ fp.toNat + stackSizePerFrame * frames.length := by
  induction frames generalizing fp with
  | nil =>
    rw [mem_singleton.mp member]
    omega
  | cons frame callers ih =>
    obtain ⟨own, sizes⟩ := forall_mem_cons.mp sizes
    rw [length_cons, Nat.mul_succ] at fits ⊢
    have room : fp.toNat + stackSizePerFrame < 2 ^ 64 := by omega
    have raised := caller_fp own room
    rcases mem_cons.mp member with rfl | outer
    · omega
    · have range := ih sizes (by omega) outer
      omega

include sizes in
theorem framePointers_apart (fits : fp.toNat + stackSizePerFrame * frames.length < 2 ^ 64) :
    (framePointers fp frames).Pairwise fun a b => Disjoint (frameRange a) (frameRange b) := by
  induction frames generalizing fp with
  | nil => exact pairwise_singleton _ _
  | cons frame callers ih =>
    obtain ⟨own, sizes⟩ := forall_mem_cons.mp sizes
    rw [length_cons, Nat.mul_succ] at fits
    have room : fp.toNat + stackSizePerFrame < 2 ^ 64 := by omega
    have raised := caller_fp own room
    refine pairwise_cons.mpr ⟨fun outer member => ?_, ih sizes (by omega)⟩
    have above := (framePointers_range sizes (by omega) member).1
    exact Set.Ico_disjoint_Ico.mpr (by omega)

end

variable {off : BitVec 16}

theorem address_toNat {reg : TaggedReg} (low : 0 ≤ reg.value.toNat + off.toInt) (high : off.toInt ≤ 0) :
    ((reg.address off).toNat : ℤ) = reg.value.toNat + off.toInt := by
  have widened : (off.signExtend 64).toInt = off.toInt := BitVec.toInt_signExtend_of_le (by decide)
  rw [TaggedReg.address, BitVec.toNat_add]
  rw [BitVec.toInt_eq_toNat_cond] at widened
  split at widened <;> omega

theorem Stacked.usable (stacked : Stacked env s) (shallow : s.callFrames.length < maxCallDepth) {len : Nat} (pc : Nat) (low : -(stackSizePerFrame : ℤ) ≤ off.toInt) (high : off.toInt + len ≤ 0) :
    checkAccess (s.reg 10) off len pc = .ok (env.stackRegion, (s.reg 10).address off) := by
  have fits := stacked.fits
  have fp := stacked.fp
  have frameSize : stackSizePerFrame = 512 := rfl
  have size : stackSize = 4096 := rfl
  rw [frameSize, size] at fp
  change s.callFrames.length < 8 at shallow
  have address : (((s.reg 10).address off).toNat : ℤ) = _ := address_toNat (by omega) (by omega)
  have inside : ¬((s.reg 10).address off < env.stackBase ∨
      env.stackBase + BitVec.ofNat 64 4096 < (s.reg 10).address off + BitVec.ofNat 64 len) := by
    bv_omega
  simp only [checkAccess, stacked.region, Env.stackRegion, RegionTag.isDescriptor, size, inside]
  simp only [Bool.false_eq_true, if_false, if_neg (show ¬2 ^ 64 ≤ ((s.reg 10).address off).toNat + len by omega)]

theorem Stacked.fit_iff (stacked : Stacked env s) : FramesFit env s ↔ s.callFrames.length < maxCallDepth := by
  have fits := stacked.fits
  have fp := stacked.fp
  have room : (s.reg 10).value.toNat + stackSizePerFrame * s.callFrames.length < 2 ^ 64 := by omega
  have frameSize : stackSizePerFrame = 512 := rfl
  have size : stackSize = 4096 := rfl
  rw [frameSize, size] at fp
  constructor
  · intro fit
    have own : (s.reg 10).value ∈ s.framePointers := by
      unfold State.framePointers
      cases s.callFrames <;> exact mem_cons_self
    have lowest : ((s.reg 10).value.toNat - stackSizePerFrame : ℤ) ∈ frameRange (s.reg 10).value :=
      Set.mem_Ico.mpr ⟨le_refl _, by omega⟩
    have above := (fit.inside _ own lowest).1
    change s.callFrames.length < 8
    omega
  · intro shallow
    refine ⟨framePointers_apart stacked.sizes room, fun outer member => ?_,
      fun off len pc low high => stacked.usable shallow pc low high⟩
    have range := framePointers_range stacked.sizes room member
    change s.callFrames.length < 8 at shallow
    rw [frameSize] at range
    exact Set.Ico_subset_Ico (by omega) (by omega)

theorem LocalCall.deeper (call : LocalCall env s s') : s'.callFrames.length = s.callFrames.length + 1 := by
  rw [call.enters.frames]
  rfl

theorem LocalCall.spared (call : LocalCall env s s') :
    ∀ insn, getInsn env.prog s.pc = some insn → insn.writesFp = false := by
  intro insn fetch
  obtain ⟨insn', fetch', isCall, -⟩ := call.call
  cases fetch.symm.trans fetch'
  simp [Insn.writesFp, isCall, Opcode.mayWrite]

theorem frames_fit_iff (env : Env ω) (mem : Mem) (host : ω) : (∀ s, FpRunning env mem host s → FramesFit env s) ↔
      ∀ s s', FpRunning env mem host s → LocalCall env s s' → s.callFrames.length + 1 < maxCallDepth := by
  constructor
  · intro fit s s' running call
    have next := running.turn call.inside call.spared call.action
    have shallow := next.stacked.fit_iff.mp (fit s' next)
    rwa [call.deeper] at shallow
  · intro shallow s running
    refine running.stacked.fit_iff.mpr ?_
    induction running with
    | start ready => exact Nat.zero_lt_succ _
    | @turn s s' running inside spared action ih =>
      rcases iterate_frames action with ⟨frames, -⟩ | ⟨insn, fetch, isCall, localCall, -⟩ | run
      · rwa [frames]
      · have call : LocalCall env s s' := ⟨inside, ⟨insn, fetch, isCall, localCall⟩, action⟩
        rw [call.deeper]
        exact shallow s s' running call
      · obtain ⟨frame, frames, -⟩ := exit_step run
        have popped := congrArg length frames
        rw [length_cons] at popped
        change s.callFrames.length = _ at popped
        omega

-- `call -1`: a function that calls itself.
def callsItself : Env Unit := callEnv [0x85, 0x10, 0, 0, 0xff, 0xff, 0xff, 0xff, 0x95, 0, 0, 0, 0, 0, 0, 0]

theorem callsItself_running (n : Nat) (calls : n ≤ 8) : FpRunning callsItself (fun _ => 0) () (after callsItself n) := by
  have accepted : ∀ n < 8, (after callsItself n).pc = 0 ∧ (iterate callsItself (after callsItself n)).1 = .ok none := by
    decide +kernel
  induction n with
  | zero => exact .start (by decide)
  | succ n ih =>
    obtain ⟨first, proceeds⟩ := accepted n calls
    refine .turn (ih (by omega)) (by rw [first]; decide) ?_ (Prod.ext proceeds rfl)
    intro insn fetch
    rw [first] at fetch
    cases fetch
    decide

theorem ninth_frame_outside : ∃ s, FpRunning callsItself (fun _ => 0) () s ∧ s.callFrames.length = maxCallDepth ∧
      (s.reg 10).value = callsItself.stackBase ∧ ¬FramesFit callsItself s ∧
      checkAccess (s.reg 10) (-8) 8 0 = .error (.err (.memoryAccessViolation 0 0x7ff8 8)) := by
  have running := callsItself_running 8 (le_refl 8)
  have depth : (after callsItself 8).callFrames.length = maxCallDepth := by decide +kernel
  refine ⟨_, running, depth, by decide +kernel, fun fit => ?_, by decide +kernel⟩
  have shallow := running.stacked.fit_iff.mp fit
  omega

end Sonde.Bpf
