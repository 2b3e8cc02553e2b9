import Sonde.Bpf.Confinement

namespace Sonde.Bpf

variable {ω : Type} {env : Env ω}

def InCtx (env : Env ω) (addr : BitVec 64) : Prop := (addr - env.ctxBase).toNat < env.ctxLen

/-- Where the context buffer lies among the other memory of the run, and what the helpers leave alone. -/
structure CtxGuarded (env : Env ω) : Prop where
  stack : ∀ addr, InCtx env addr → ¬(addr - env.stackBase).toNat < stackSize
  maps : ∀ map ∈ env.maps, ∀ addr, InCtx env addr → ¬(map.dataStart ≤ addr ∧ addr < map.dataEnd)
  fields : ∀ field ∈ env.ctxPtrs, ∀ addr, InCtx env addr → field.region.base ≤ addr → addr < field.region.endAddr →
    field.region.tag = .context
  helpers : ∀ desc ∈ env.helpers, ∀ r1 r2 r3 r4 r5 mem host addr, InCtx env addr →
    (desc.func r1 r2 r3 r4 r5 mem host).2.1 addr = mem addr

theorem CtxGuarded.apart (guarded : CtxGuarded env) (readOnly : env.readOnlyCtx = true) {region : Region}
    (allowed : Allowed env region) (pointer : region.tag.isDescriptor = false) (writable : region.tag ≠ .context)
    {addr : BitVec 64} (ctx : InCtx env addr) : ¬(region.base ≤ addr ∧ addr < region.endAddr) := by
  rintro ⟨lower, upper⟩
  cases allowed with
  | stack =>
    apply guarded.stack addr ctx
    simp only [Env.stackRegion] at lower upper
    bv_omega
  | ctx => simp [Env.ctxRegion, readOnly] at writable
  | ctxPtr member => exact writable (guarded.fields _ member addr ctx lower upper)
  | descriptor bound => simp [RegionTag.isDescriptor] at pointer
  | mapValue member first ordered last =>
    apply guarded.maps _ member addr ctx
    constructor
    · exact BitVec.le_trans first lower
    · bv_omega

theorem CtxGuarded.stable (guarded : CtxGuarded env) (readOnly : env.readOnlyCtx = true) (mem : Mem) :
    Stable env fun now _ => ∀ addr, InCtx env addr → now addr = mem addr := by
  constructor
  · intro region start len val now host within writable same addr ctx
    rw [Mem.store_apart, same addr ctx]
    intro touched
    apply guarded.apart readOnly within.allowed within.pointer writable ctx
    have lower := within.lower
    have upper := within.upper
    constructor
    · bv_omega
    · bv_omega
  · intro desc member r1 r2 r3 r4 r5 now host same addr ctx
    rw [guarded.helpers desc member r1 r2 r3 r4 r5 now host addr ctx, same addr ctx]

theorem CtxGuarded.initial (guarded : CtxGuarded env) (mem : Mem) {addr : BitVec 64} (ctx : InCtx env addr) :
    mem.zero env.stackBase stackSize addr = mem addr := by
  simp only [Mem.zero, if_neg (guarded.stack addr ctx)]

theorem readOnlyCtx_unchanged (env : Env ω) (readOnly : env.readOnlyCtx = true) (guarded : CtxGuarded env) (mem : Mem)
    (host : ω) (addr : BitVec 64) (ctx : InCtx env addr) : (∀ s, Reached env mem host s → s.mem addr = mem addr) ∧
      ∀ fuel result final, executeProgram env fuel mem host = some (result, final) → final.mem addr = mem addr := by
  have states (s : State ω) (reached : Reached env mem host s) : s.mem addr = mem addr :=
    (reached_good (guarded.stable readOnly mem) (fun _ ctx => guarded.initial mem ctx) reached).kept addr ctx
  refine ⟨states, ?_⟩
  intro fuel result final run
  unfold executeProgram at run
  cases ready : prologue env with
  | error e =>
    rw [ready] at run
    cases run
    exact guarded.initial mem ctx
  | ok _ =>
    rw [ready] at run
    exact states final (loop_reached env (.start ready) run)

-- `*(u32 *)(r1 + 0) = 5; r0 = atomic_fetch_add(*(u64 *)(r1 + 8), r0); exit`
def ctxStoreEnv : Env Unit where
  prog := [0x62, 0x01, 0, 0, 5, 0, 0, 0, 0xdb, 0x01, 8, 0, 1, 0, 0, 0, 0x95, 0, 0, 0, 0, 0, 0, 0]
  ctxBase := 0x1000
  ctxLen := 16
  helpers := []
  maps := []
  readOnlyCtx := true
  instructionBudget := 3
  ctxPtrs := []
  stackBase := 0x8000
  overflowChecks := true

theorem ctxStoreEnv_guarded : CtxGuarded ctxStoreEnv where
  stack := by
    intro addr ctx
    simp only [InCtx, ctxStoreEnv] at ctx ⊢
    have size : stackSize = 4096 := rfl
    bv_omega
  maps := by simp [ctxStoreEnv]
  fields := by simp [ctxStoreEnv]
  helpers := by simp [ctxStoreEnv]

theorem ctxStoreEnv_finishes : (executeProgram ctxStoreEnv 3 (fun _ => 7) ()).isSome := by decide +kernel

def ctxStoreRun : Except Stop (BitVec 64) × State Unit := Option.get _ ctxStoreEnv_finishes

theorem readOnlyCtx_unchanged_stores :
    ctxStoreRun.1 = .ok 0x0707070707070707 ∧ ctxStoreRun.2.mem 0x1000 = 7 ∧ ctxStoreRun.2.mem 0x1008 = 7 := by
  have run := (Option.some_get ctxStoreEnv_finishes).symm
  have unchanged (addr : BitVec 64) (ctx : InCtx ctxStoreEnv addr) : ctxStoreRun.2.mem addr = 7 :=
    (readOnlyCtx_unchanged ctxStoreEnv rfl ctxStoreEnv_guarded (fun _ => 7) () addr ctx).2 _ _ _ run
  refine ⟨by decide +kernel, unchanged _ ?_, unchanged _ ?_⟩
  · simp [InCtx, ctxStoreEnv]
  · simp [InCtx, ctxStoreEnv]

end Sonde.Bpf
