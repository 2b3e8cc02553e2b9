import Sonde.Bpf.Footprint
import Sonde.Node.FreshMaps

/-!
# Where a program on the node may write
-/

namespace Sonde.Node
open Lib Protocol Bpf
open Bpf (Mem HelperDescriptor State Running Reached TurnSpares storeTarget calledHelper)

def helperTarget (ctx : Dispatch) (id : BitVec 32) (r1 r2 r3 r4 r5 : BitVec 64) (mem : Mem) : Option (BitVec 64 × Nat) :=
  if id = 1 ∨ id = 4 then some (usize r2, (usize r3).toNat)
  else if id = 3 then some (usize r4, (usize r5).toNat)
  else if id = 9 then some (usize r3, (usize r4).toNat)
  else if id = 11 ∧ ctx.programClass ≠ .ephemeral then do
    let map ← ctx.map? r1
    let value ← map.lookup (mem.load (usize r2) 4).toNat
    some (value, map.mapDef.valueSize.toNat)
  else none

variable {a : BitVec 64} {map : MapInstance} {mem : Mem}
    {τ : Type} {link : Link τ} {hal : Hal τ} {provider : Provider} {reader : Cbor.Reader} {ctx : Dispatch}

theorem callHal_apart {call : HalCall} {dest : BitVec 64} {len : Nat} {host : Host τ} (apart : ¬(a - dest).toNat < len) : (callHal hal call dest len mem host).2.1 a = mem a := by
  have taken := List.length_take_le len (hal.call call host.radio.world).1.2
  change (mem.write dest ((hal.call call host.radio.world).1.2.take len)) a = mem a
  exact Mem.write_apart (by omega) (by omega)

theorem registered_apart {desc : HelperDescriptor (Host τ)} (member : desc ∈ registered link hal provider reader ctx)
    {r1 r2 r3 r4 r5 : BitVec 64} {host : Host τ}
    (apart : ∀ addr len, helperTarget ctx desc.id r1 r2 r3 r4 r5 mem = some (addr, len) → ¬(a - addr).toNat < len) :
    (desc.func r1 r2 r3 r4 r5 mem host).2.1 a = mem a := by
  have silent (call : HalCall) : (callHal hal call 0 0 mem host).2.1 a = mem a := callHal_apart (Nat.not_lt_zero _)
  simp only [registered, List.mem_cons, List.not_mem_nil, or_false] at member
  rcases member with rfl | rfl | rfl | rfl | rfl | rfl | rfl | rfl | rfl | rfl | rfl | rfl | rfl | rfl | rfl | rfl | rfl
  · simp only [helperI2cRead]
    split
    · rfl
    · exact callHal_apart (apart _ _ rfl)
  · simp only [helperI2cWrite]
    split
    · rfl
    · exact silent _
  · simp only [helperI2cWriteRead]
    split
    · rfl
    · exact callHal_apart (apart _ _ rfl)
  · simp only [helperSpiTransfer]
    split
    · rfl
    · exact callHal_apart (apart _ _ rfl)
  · exact silent _
  · exact silent _
  · exact silent _
  · simp only [helperSend]
    split
    · rfl
    · split
      · rfl
      · rfl
  · simp only [helperSendRecv]
    split
    · rfl
    · split
      · rfl
      · split
        · rfl
        · have inBuffer := apart (usize r3) (usize r4).toNat rfl
          exact Mem.write_apart (by omega) (by omega)
  · simp only [helperMapLookupElem]
    split
    · rfl
    · rfl
  · simp only [helperMapUpdateElem]
    split
    · rfl
    rename_i resident
    split
    · rfl
    cases found : ctx.map? r1 with
    | none => rfl
    | some map =>
      dsimp only
      split
      · rename_i mem' updated
        refine update_apart updated fun addr isValue => apart addr _ ?_
        simp [helperTarget, found, isValue, resident]
      · rename_i refused
        exact congrFun (update_failed refused) a
  · rfl
  · rfl
  · simp only [helperDelayUs]
    split
    · rfl
    split
    · rfl
    · rfl
  · simp only [helperSetNextWake]
    split
    · rfl
    split
    · rfl
    · rfl
  · simp only [helperBpfTracePrintk]
    split
    · rfl
    split
    · split
      · rfl
      · rfl
    · rfl
  · simp only [helperSendAsync]
    split
    · rfl
    · rfl

/-! ## Runs -/

structure TurnAvoids (env : Env (Host τ)) (ctx : Dispatch) (map : MapInstance) (s : State (Host τ)) : Prop where
  store : ∀ addr len, storeTarget env s = some (addr, len) → ∀ a, map.Holds a → ¬(a - addr).toNat < len
  helper : ∀ desc, calledHelper env s = some desc → ∀ addr len,
    helperTarget ctx desc.id (s.reg 1).value (s.reg 2).value (s.reg 3).value (s.reg 4).value (s.reg 5).value s.mem =
      some (addr, len) → ∀ a, map.Holds a → ¬(a - addr).toNat < len

theorem TurnAvoids.spares {env : Env (Host τ)} {link : Link τ} {hal : Hal τ} {provider : Provider}
    {reader : Cbor.Reader} {ctx : Dispatch} {s : State (Host τ)}
    (helpers : env.helpers = registered link hal provider reader ctx) (avoids : TurnAvoids env ctx map s) :
    TurnSpares env map.Holds s where
  store := avoids.store
  helper desc called a holds := by
    have member := calledHelper_mem called
    rw [helpers] at member
    exact registered_apart member fun addr len target => avoids.helper desc called addr len target a holds

theorem length_toBytes (ctx : SondeContext) : ctx.toBytes.length = SondeContext.size := by
  simp [SondeContext.toBytes, toLittleEndian, SondeContext.size]

theorem data_of_bytes {mem' : Mem} (same : ∀ a, map.Holds a → mem' a = mem a) : map.data mem' = map.data mem := by
  apply Mem.slice_congr
  intro k bound
  apply same
  simp only [MapInstance.Holds]
  bv_omega

theorem start_mem {space : AddressSpace} (ctx : SondeContext) (within : space.mapBacking.toNat ≤ map.ptr.toNat ∧
      map.ptr.toNat + map.storageBytes ≤ space.mapBacking.toNat + mapBudget) (holds : map.Holds a) :
    (mem.write space.ctxBase ctx.toBytes).zero space.stackBase stackSize a = mem a := by
  have backing := space.backing_fits
  have ctxFits := space.ctx_fits
  have stackFits := space.stack_fits
  have ctxApart := space.ctx_apart
  have stackApart := space.stack_apart
  simp only [Apart, MapInstance.Holds] at *
  have offStack : ¬(a - space.stackBase).toNat < stackSize := by bv_omega
  have offCtx : ¬(a - space.ctxBase).toNat < ctx.toBytes.length := by
    rw [length_toBytes]
    bv_omega
  exact (if_neg offStack).trans (Mem.write_apart (by rw [length_toBytes]; decide) offCtx)

section
variable {space : AddressSpace} {overflowChecks : Bool} {dispatch : Dispatch} {bytecode : Bytes}
    {regions : List MapRegion} {budget : Nat} {ctx : SondeContext} {host : Host τ}
    (avoids : ∀ s,
      Running (sondeBpfEnv space overflowChecks (registered link hal provider reader dispatch) bytecode regions budget)
        (mem.write space.ctxBase ctx.toBytes) host s →
      s.pc < bytecode.length / insnSize →
      TurnAvoids (sondeBpfEnv space overflowChecks (registered link hal provider reader dispatch) bytecode regions budget)
        dispatch map s)
    (within : space.mapBacking.toNat ≤ map.ptr.toNat ∧
      map.ptr.toNat + map.storageBytes ≤ space.mapBacking.toNat + mapBudget)
include avoids within

theorem executed_data {mapPtrs : List (BitVec 64)} {mapDefs : List MapDef}
    (loaded : loadRegions bytecode mapPtrs mapDefs = .ok regions) :
    map.data (sondeBpfExecute space overflowChecks (registered link hal provider reader dispatch) bytecode mapPtrs mapDefs
      ctx budget mem host).2.1 = map.data mem := by
  have kept {fuel : Nat} {result : Except Stop (BitVec 64)} {final : State (Host τ)}
      (run : executeProgram
        (sondeBpfEnv space overflowChecks (registered link hal provider reader dispatch) bytecode regions budget) fuel
        (mem.write space.ctxBase ctx.toBytes) host = some (result, final)) : map.data final.mem = map.data mem := by
    refine data_of_bytes fun a holds => ?_
    refine (executeProgram_leaves (fun s running inside => ?_) run holds).trans (start_mem ctx within holds)
    exact (avoids s running inside).spares rfl
  simp only [sondeBpfExecute, loaded]
  split
  · rfl
  all_goals
    rename_i run
    exact kept run

end

-- `exit`
def exits : Bytes := [0x95, 0, 0, 0, 0, 0, 0, 0]

theorem exits_writes_nothing {ω : Type} {env : Env ω} (isProg : env.prog = exits) {s : State ω}
    (inside : s.pc < env.numInsns) : storeTarget env s = none ∧ calledHelper env s = none := by
  have first : s.pc = 0 := by
    simp only [Env.numInsns, isProg] at inside
    simpa [exits, insnSize] using inside
  simp only [storeTarget, calledHelper, isProg, first]
  exact ⟨rfl, rfl⟩

theorem exits_avoids {τ : Type} {env : Env (Host τ)} (isProg : env.prog = exits) (ctx : Dispatch)
    (map : MapInstance) {s : State (Host τ)} (inside : s.pc < env.numInsns) : TurnAvoids env ctx map s := by
  obtain ⟨noStore, noCall⟩ := exits_writes_nothing isProg inside
  constructor
  · intro addr len target
    cases noStore.symm.trans target
  · intro desc called
    cases noCall.symm.trans called

-- `r1 = &map[0]; *(u8 *)(r1 + 0) = 5`
def storesIntoMap : Bytes := [0x18, 0x61, 0, 0, 0, 0, 0, 0, 0, 0, 0, 0, 0, 0, 0, 0, 0x72, 0x01, 0, 0, 5, 0, 0, 0]

end Sonde.Node
