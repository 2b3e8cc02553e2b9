import Sonde.Bpf.Budget

/-!
# The bytes that a turn may write

A turn writes where its store or atomic instruction points, or where the helper that it calls writes. What lies apart from
that in every turn is the same in every state of the run.
-/

namespace Sonde.Bpf
open Lib.Program

variable {ω : Type} {env : Env ω}

def storeTarget (env : Env ω) (s : State ω) : Option (BitVec 64 × Nat) := do
  let insn ← getInsn env.prog s.pc
  let len ← (← opcode insn.opc).stored
  if h : insn.dst ≤ 10 then some ((s.reg ⟨insn.dst, Nat.lt_succ_of_le h⟩).address insn.off, len) else none

def calledHelper (env : Env ω) (s : State ω) : Option (HelperDescriptor ω) := do
  let insn ← getInsn env.prog s.pc
  if opcode insn.opc = some .call then env.helpers.find? (·.id = insn.imm) else none

variable {s : State ω}

theorem calledHelper_mem {env : Env ω} {desc : HelperDescriptor ω} (called : calledHelper env s = some desc) :
    desc ∈ env.helpers := by
  simp only [calledHelper, Option.bind_eq_bind, Option.bind_eq_some_iff] at called
  obtain ⟨insn, -, found⟩ := called
  split at found
  · exact List.mem_of_find?_eq_some found
  · cases found

structure TurnSpares (env : Env ω) (R : BitVec 64 → Prop) (s : State ω) : Prop where
  store : ∀ addr len, storeTarget env s = some (addr, len) → ∀ a, R a → ¬(a - addr).toNat < len
  helper : ∀ desc, calledHelper env s = some desc → ∀ a, R a → memAfter desc s a = s.mem a

variable {a : BitVec 64} {R : BitVec 64 → Prop}

theorem iterate_leaves (spares : TurnSpares env R s) (ofR : R a) : (iterate env s).2.mem a = s.mem a := by
  simp only [iterate, bind_run, getPc, read_run, charge_run]
  by_cases overflow : env.overflowChecks ∧ 2 ^ 64 ≤ s.insnCount.toNat + 1
  · simp only [if_pos overflow]
  by_cases exceeded : env.instructionBudget < s.insnCount + 1
  · simp only [if_neg overflow, if_pos exceeded]
  simp only [if_neg overflow, if_neg exceeded]
  cases fetched : getInsn env.prog s.pc with
  | none => rfl
  | some insn =>
    simp only [bind_run, setPc, update_run]
    split
    · rename_i fields
      cases decoded : opcode insn.opc with
      | none => rfl
      | some o =>
        refine execute_leaves (p := .byte a) ⟨fun len stored => ?_, ?_⟩
        · apply spares.store _ len _ a ofR
          simp [storeTarget, fetched, decoded, stored, fields.1]
        · rintro rfl desc found
          have called : calledHelper env s = some desc := by simp [calledHelper, fetched, decoded, found]
          exact spares.helper desc called a ofR
    · rfl

theorem reached_leaves {mem : Mem} {host : ω}
    (spares : ∀ s, Running env mem host s → s.pc < env.numInsns → TurnSpares env R s) (reached : Reached env mem host s)
    (ofR : R a) : s.mem a = mem.zero env.stackBase stackSize a := by
  have head (s : State ω) (running : Running env mem host s) : s.mem a = mem.zero env.stackBase stackSize a := by
    induction running with
    | start ready => rfl
    | @turn s s' running inside action ih =>
      have left := iterate_leaves (spares s running inside) ofR
      rw [action] at left
      exact left.trans ih
  rcases reached with running | ⟨before, running, inside, rfl⟩
  · exact head s running
  · exact (iterate_leaves (spares before running inside) ofR).trans (head before running)

theorem executeProgram_leaves {mem : Mem} {host : ω}
    (spares : ∀ s, Running env mem host s → s.pc < env.numInsns → TurnSpares env R s) {fuel : Nat}
    {result : Except Stop (BitVec 64)} {final : State ω} (run : executeProgram env fuel mem host = some (result, final))
    (ofR : R a) : final.mem a = mem.zero env.stackBase stackSize a := by
  unfold executeProgram at run
  cases ready : prologue env with
  | error e =>
    simp only [ready, Option.some.injEq, Prod.mk.injEq] at run
    rw [← run.2]
    rfl
  | ok done =>
    simp only [ready] at run
    exact reached_leaves spares (loop_reached env (.start ready) run) ofR

end Sonde.Bpf
