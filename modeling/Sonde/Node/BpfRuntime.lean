import Sonde.Bpf.Confinement
import Sonde.Node.Dispatch

namespace Sonde.Node
open Lib Protocol
open Bpf (Mem HelperDescriptor MapRegion)

structure SondeContext where
  timestamp : BitVec 64
  batteryMv : Nat
  firmwareAbiVersion : Nat
  wakeReason : Nat
  dataStart : BitVec 64
  dataEnd : BitVec 64

def SondeContext.size : Nat := 32

def toLittleEndian (width n : Nat) : Bytes := (toBigEndian width n).reverse

def SondeContext.toBytes (ctx : SondeContext) : Bytes :=
  toLittleEndian 8 ctx.timestamp.toNat ++ toLittleEndian 2 ctx.batteryMv ++ toLittleEndian 2 ctx.firmwareAbiVersion ++
    toLittleEndian 1 ctx.wakeReason ++ [0, 0, 0] ++ toLittleEndian 8 ctx.dataStart.toNat ++
    toLittleEndian 8 ctx.dataEnd.toNat

inductive BpfError where
  | instructionBudgetExceeded
  | callDepthExceeded
  | invalidBytecode (reason : String)
  | helperNotRegistered (id : BitVec 32)
  | loadError (reason : String)
  | mapLoadError (index : Nat) (kind : String)
  | runtimeError (reason : String)

/-- `BpfInterpreter`, with the host state of the helpers as a parameter. Whatever the bytecode, it acts on that state
through the helpers only. An `execute` that gives `none` has panicked. -/
structure BpfInterpreter (ω : Type) where
  registerAll : Except BpfError Unit
  load : Bytes → List (BitVec 64) → List MapDef → Except BpfError Unit
  execute : List (HelperDescriptor ω) → Bytes → List (BitVec 64) → List MapDef → SondeContext → Nat → Mem → ω →
    Option (Except BpfError (BitVec 64)) × Mem × ω
  through_helpers : ∀ {P : ω → Prop} {helpers : List (HelperDescriptor ω)},
    (∀ desc ∈ helpers, ∀ r1 r2 r3 r4 r5 mem host, P host → P (desc.func r1 r2 r3 r4 r5 mem host).2.2) →
    ∀ bytecode mapPtrs mapDefs ctx budget mem host, P host →
      P (execute helpers bytecode mapPtrs mapDefs ctx budget mem host).2.2

/-! ## The adapter for `sonde-bpf` -/

def regionOf (index : Nat) (ptr : BitVec 64) (mapDef : MapDef) : Except BpfError MapRegion :=
  if ptr = 0 then .error (.mapLoadError index "null pointer")
  else if totalSize mapDef ≥ 2 ^ 64 then
    .error (.mapLoadError index "total size overflow (entry_size * max_entries)")
  else if ptr.toNat + totalSize mapDef ≥ 2 ^ 64 then .error (.mapLoadError index "pointer + size overflow")
  else .ok ⟨ptr, mapDef.keySize, mapDef.valueSize, ptr, ptr + BitVec.ofNat 64 (totalSize mapDef)⟩

def regionsFrom (index : Nat) : List (BitVec 64 × MapDef) → Except BpfError (List MapRegion)
  | [] => .ok []
  | (ptr, mapDef) :: rest => do
    let region ← regionOf index ptr mapDef
    let regions ← regionsFrom (index + 1) rest
    .ok (region :: regions)

def loadRegions (bytecode : Bytes) (mapPtrs : List (BitVec 64)) (mapDefs : List MapDef) :
    Except BpfError (List MapRegion) :=
  if bytecode = [] then .error (.invalidBytecode "empty bytecode")
  else if bytecode.length % 8 ≠ 0 then .error (.invalidBytecode "bytecode length must be a multiple of 8")
  else if mapPtrs.length ≠ mapDefs.length then .error (.loadError "map_ptrs and map_defs length mismatch")
  else regionsFrom 0 (mapPtrs.zip mapDefs)

def adaptError : Bpf.BpfError → BpfError
  | .instructionBudgetExceeded .. => .instructionBudgetExceeded
  | .callDepthExceeded .. => .callDepthExceeded
  | .unknownHelper _ id => .helperNotRegistered id
  | .outOfBounds .. | .unknownOpcode .. => .invalidBytecode "invalid or out-of-bounds bytecode"
  | .invalidMapIndex .. | .invalidHelperArgument .. => .loadError "invalid map index or helper argument"
  | _ => .runtimeError "BPF runtime error"

def Apart (a : BitVec 64) (n : Nat) (b : BitVec 64) (m : Nat) : Prop := a.toNat + n ≤ b.toNat ∨ b.toNat + m ≤ a.toNat

/-- Where the maps' backing, the interpreter's context buffer and stack, and the downlink blob lie. -/
structure AddressSpace where
  mapBacking : BitVec 64
  ctxBase : BitVec 64
  stackBase : BitVec 64
  blobBase : BitVec 64
  backing_notNull : mapBacking ≠ 0
  backing_fits : mapBacking.toNat + mapBudget < 2 ^ 64
  ctx_fits : ctxBase.toNat + SondeContext.size < 2 ^ 64
  stack_fits : stackBase.toNat + Bpf.stackSize < 2 ^ 64
  blob_fits : blobBase.toNat + maxPayloadSize < 2 ^ 64
  ctx_apart : Apart mapBacking mapBudget ctxBase SondeContext.size
  stack_apart : Apart mapBacking mapBudget stackBase Bpf.stackSize
  blob_apart : Apart mapBacking mapBudget blobBase maxPayloadSize

section
variable {ω : Type} (space : AddressSpace) (overflowChecks : Bool)

def sondeBpfEnv (helpers : List (HelperDescriptor ω)) (bytecode : Bytes) (regions : List MapRegion) (budget : Nat) :
    Bpf.Env ω where
  prog := bytecode
  ctxBase := space.ctxBase
  ctxLen := SondeContext.size
  helpers := helpers
  maps := regions
  readOnlyCtx := true
  instructionBudget := BitVec.ofNat 64 budget
  ctxPtrs := []
  stackBase := space.stackBase
  overflowChecks := overflowChecks
  pointerWidth := 32

-- Every turn is charged, so that `budget + 1` turns suffice.
def sondeBpfExecute (helpers : List (HelperDescriptor ω)) (bytecode : Bytes) (mapPtrs : List (BitVec 64))
    (mapDefs : List MapDef) (ctx : SondeContext) (budget : Nat) (mem : Mem) (host : ω) :
    Option (Except BpfError (BitVec 64)) × Mem × ω :=
  match loadRegions bytecode mapPtrs mapDefs with
  | .error e => (some (.error e), mem, host)
  | .ok regions =>
    let env := sondeBpfEnv space overflowChecks helpers bytecode regions budget
    match Bpf.executeProgram env (budget + 1) (mem.write space.ctxBase ctx.toBytes) host with
    | none => (none, mem, host)
    | some (.ok r0, s) => (some (.ok r0), s.mem, s.host)
    | some (.error (.err e), s) => (some (.error (adaptError e)), s.mem, s.host)
    | some (.error .panicked, s) => (none, s.mem, s.host)

def sondeBpfInterpreter : BpfInterpreter ω where
  registerAll := .ok ()
  load bytecode mapPtrs mapDefs := do
    let _ ← loadRegions bytecode mapPtrs mapDefs
    .ok ()
  execute := sondeBpfExecute space overflowChecks
  through_helpers := by
    intro P helpers keeps bytecode mapPtrs mapDefs ctx budget mem host start
    unfold sondeBpfExecute
    cases loadRegions bytecode mapPtrs mapDefs with
    | error e => exact start
    | ok regions =>
      dsimp only
      have keeps' : Bpf.HelpersKeep (sondeBpfEnv space overflowChecks helpers bytecode regions budget) P := keeps
      split
      · exact start
      all_goals
        rename_i run
        exact Bpf.executeProgram_keeps keeps' start run

end

end Sonde.Node
