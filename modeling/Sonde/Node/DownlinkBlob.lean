import Sonde.Bpf.Budget
import Sonde.Node.WakeCycle

/-!
# Reading the downlink blob

The context of a NOP COMMAND with a blob holds the blob's address in `data_start`. The adapter passes no context pointer
fields, so a program loads this address as a plain number.
-/

namespace Sonde.Node
open Lib Lib.Program Protocol
open Bpf (MapRegion Insn Reg State Env getInsn opcode iterate iterate_ok)

section
variable {τ : Type} (platform : Platform τ) (provider : Provider) (reader : Cbor.Reader) (space : AddressSpace)
  (overflowChecks : Bool)

def cycleEnv (identity : NodeIdentity) (command : Command) (commandReceivedAt batteryMv : Nat) (program : LoadedProgram)
    (mapStorage : MapStorage) (regions : List MapRegion) : Env (Host τ) :=
  sondeBpfEnv space overflowChecks
    (registered platform.toLink platform.toHal provider reader
      (dispatchFor identity command commandReceivedAt batteryMv program mapStorage))
    program.bytecode regions defaultInstructionBudget

end

variable {ω : Type}

def dataStartOffset : BitVec 64 := 16

structure LoadsDataStart (env : Env ω) (s : State ω) (insn : Insn) (dst src : Reg) : Prop where
  fetch : getInsn env.prog s.pc = some insn
  load : opcode insn.opc = some (.ldReg .dw)
  named : insn.dst = dst.val ∧ insn.src = src.val
  pointer : (s.reg src).region = some env.ctxRegion
  address : (s.reg src).address insn.off = env.ctxBase + dataStartOffset

structure ReadsByte (env : Env ω) (s : State ω) (insn : Insn) (dst src : Reg) (offset : Nat) : Prop where
  fetch : getInsn env.prog s.pc = some insn
  load : opcode insn.opc = some (.ldReg .b)
  named : insn.dst = dst.val ∧ insn.src = src.val
  offset : insn.off = BitVec.ofNat 16 offset

theorem loadsDataStart_untagged {env : Env ω} (noFields : env.ctxPtrs = []) {s s' : State ω} {insn : Insn}
    {dst src : Reg} (loads : LoadsDataStart env s insn dst src) (action : iterate env s = (.ok none, s')) :
    (s'.reg dst).region = none := by
  obtain ⟨insn', o, dstBound, srcBound, fetch, op, run⟩ := iterate_ok action
  cases loads.fetch.symm.trans fetch
  cases loads.load.symm.trans op
  have dstReg : (⟨insn.dst, by omega⟩ : Reg) = dst := Fin.ext loads.named.1
  have srcReg : (⟨insn.src, by omega⟩ : Reg) = src := Fin.ext loads.named.2
  rw [dstReg, srcReg] at run
  obtain ⟨_, t, loaded, rest⟩ := bind_ok run
  cases rest
  obtain ⟨base, _, read, loaded⟩ := bind_ok loaded
  cases read
  obtain ⟨val, t, memory, loaded⟩ := bind_ok loaded
  obtain ⟨region, _, restored, loaded⟩ := bind_ok loaded
  cases restored
  cases loaded
  have pointer : (s.fetched.reg src).region = some env.ctxRegion := loads.pointer
  have tag : env.ctxRegion.tag = .context ∨ env.ctxRegion.tag = .memory := by
    simp only [Bpf.Env.ctxRegion]
    split
    · exact .inl rfl
    · exact .inr rfl
  rcases tag with tag | tag
  all_goals simp [Bpf.restoredRegion, pointer, tag, noFields]

theorem readsByte_stops {env : Env ω} {s : State ω} {insn : Insn} {dst src : Reg} {offset : Nat}
    (reads : ReadsByte env s insn dst src offset) (untagged : (s.reg src).region = none) (s' : State ω) :
    iterate env s ≠ (.ok none, s') := by
  intro action
  obtain ⟨insn', o, dstBound, srcBound, fetch, op, run⟩ := iterate_ok action
  cases reads.fetch.symm.trans fetch
  cases reads.load.symm.trans op
  have srcReg : (⟨insn.src, by omega⟩ : Reg) = src := Fin.ext reads.named.2
  rw [srcReg] at run
  obtain ⟨_, t, loaded, rest⟩ := bind_ok run
  obtain ⟨base, _, read, loaded⟩ := bind_ok loaded
  cases read
  obtain ⟨val, t, memory, loaded⟩ := bind_ok loaded
  obtain ⟨access, t, checked, memory⟩ := bind_ok memory
  have noTag : (s.fetched.reg src).region = none := untagged
  simp [Bpf.checkAccess, noTag, Program.ofExcept, Program.stop] at checked

theorem blob_unreadable {τ : Type} (platform : Platform τ) (provider : Provider) (reader : Cbor.Reader)
    (space : AddressSpace) (overflowChecks : Bool) (identity : NodeIdentity) (command : Command)
    (commandReceivedAt batteryMv : Nat) (program : LoadedProgram) (mapStorage : MapStorage) (regions : List MapRegion)
    (env : Env (Host τ))
    (isEnv : env = cycleEnv platform provider reader space overflowChecks identity command commandReceivedAt batteryMv
      program mapStorage regions)
    (i : Nat) (byte : BitVec 8) (s s' t : State (Host τ)) (load read : Insn) (dst src dst' : Reg)
    (loads : LoadsDataStart env s load dst src) (action : iterate env s = (.ok none, s')) (held : t.reg dst = s'.reg dst)
    (reads : ReadsByte env t read dst' dst i) : (command.blob.getD [])[i]? = some byte →
      ¬∃ t', iterate env t = (.ok none, t') ∧ t'.reg dst' = .scalar (byte.setWidth 64) := by
  rintro _ ⟨t', next, _⟩
  have noFields : env.ctxPtrs = [] := by rw [isEnv]; rfl
  have untagged := loadsDataStart_untagged noFields loads action
  exact readsByte_stops reads (by rw [held, untagged]) t' next

-- `r2 = *(u64 *)(r1 + 16); r3 = *(u8 *)(r2 + 0); set_next_wake(5); exit`, and the same without the two loads.
def readsBlob : Bytes := [0x79, 0x12, 16, 0, 0, 0, 0, 0, 0x71, 0x23, 0, 0, 0, 0, 0, 0]

def wakesEarly : Bytes := [0xb7, 0x01, 0, 0, 5, 0, 0, 0, 0x85, 0, 0, 0, 15, 0, 0, 0, 0x95, 0, 0, 0, 0, 0, 0, 0]

def blobOutcome (bytecode : Bytes) : Option WakeCycleOutcome :=
  (runWakeCycle scriptedPlatform plainProvider .definite (sondeBpfInterpreter smallSpace true) smallSpace smallBoard
    ((smallDevice (imageOf bytecode [])
      ⟨[], [gatewayFrame plainProvider 7 (.command 100 0 .nop (some [0x41]))]⟩).boot smallSpace.mapBacking)).1

theorem blob_read_ends_program :
    blobOutcome wakesEarly = some (.sleep 5) ∧ blobOutcome (readsBlob ++ wakesEarly) = some (.sleep 300) := by
  decide +kernel

def blobCommand : Command := ⟨100, 0, .nop, some [0x41]⟩

def blobProgram : LoadedProgram := ⟨readsBlob ++ wakesEarly, [], [], [], false⟩

def blobEnv : Env (Host Script) :=
  cycleEnv scriptedPlatform plainProvider .definite smallSpace true smallIdentity blobCommand 0 0 blobProgram
    ⟨mapBudget, []⟩ []

def blobStart : State (Host Script) := Bpf.initial blobEnv (fun _ => 0) (smallDevice [] ⟨[], []⟩).host

theorem blob_unreadable_first :
    ¬∃ t', iterate blobEnv (iterate blobEnv blobStart).2 = (.ok none, t') ∧ t'.reg 3 = .scalar 0x41 := by
  refine blob_unreadable scriptedPlatform plainProvider .definite smallSpace true smallIdentity blobCommand 0 0 blobProgram
    ⟨mapBudget, []⟩ [] blobEnv rfl 0 0x41 blobStart (iterate blobEnv blobStart).2 (iterate blobEnv blobStart).2
    ⟨0x79, 2, 1, 16, 0⟩ ⟨0x71, 3, 2, 0, 0⟩ 2 1 3 ⟨?_, ?_, ?_, ?_, ?_⟩ (Prod.ext ?_ rfl) rfl ⟨?_, ?_, ?_, ?_⟩ rfl
  all_goals decide +kernel

end Sonde.Node
