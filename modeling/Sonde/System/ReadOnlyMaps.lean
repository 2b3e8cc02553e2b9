import Sonde.Gateway.Decoder
import Sonde.Node.MapWrites
import Sonde.Node.WakeCycle

/-!
# Maps that an image declares read-only

The node drops the flag when it loads an image. In the gateway's decoder `map_update_elem` honours it, the interpreter's
stores do not.
-/

namespace Sonde.System
open Lib Protocol Node ProgramImage
open Bpf (Mem Running Reached executeProgram)
open Gateway.Decoder (Heap decoderEnv decoderMem mapBacking backingSize initialBacking StoresApart)

def romDef : MapDef := ⟨0, 4, 1, 1⟩

def romImage (bytecode : Bytes) : ProgramImage := ⟨bytecode, [romDef], [[7]], [true]⟩

def smallHeap : Heap := ⟨fun _ => 0x10000, 0x1000, 0x2000⟩

theorem romImage_map {bytecode : Bytes} {i : Nat} {mapDef : MapDef} (isMap : (romImage bytecode).maps[i]? = some mapDef) :
    i = 0 ∧ mapDef = romDef := by
  change [romDef][i]? = some mapDef at isMap
  rw [List.getElem?_singleton] at isMap
  split at isMap
  · rename_i first
    exact ⟨first, (Option.some.inj isMap).symm⟩
  · cases isMap

theorem smallHeap_separate (bytecode : Bytes) : smallHeap.Separate (romImage bytecode) [] where
  maps i j first second isFirst isSecond differs :=
    absurd ((romImage_map isFirst).1.trans (romImage_map isSecond).1.symm) differs
  ctx i mapDef isMap a inside := by
    obtain ⟨rfl, rfl⟩ := romImage_map isMap
    change (a - 0x10000).toNat < 1 at inside
    change ¬(a - 0x1000).toNat < 16
    bv_omega
  stack i mapDef isMap a inside := by
    obtain ⟨rfl, rfl⟩ := romImage_map isMap
    change (a - 0x10000).toNat < 1 at inside
    have size : Bpf.stackSize = 4096 := by decide
    change ¬(a - 0x2000).toNat < Bpf.stackSize
    bv_omega
  ctx_fits := by decide

def romInstance : MapInstance := ⟨romDef, 0x10000⟩

def romStorage : MapStorage := ⟨mapBudget, [romInstance]⟩

def romMem : Mem := romStorage.applyInitialData [[7]] (MapStorage.clearMaps (fun _ => 0xff) [romInstance])

def romDispatch : Dispatch := ⟨smallIdentity, .resident, 0, 0, 0, romStorage.maps, mapPtrIndex romStorage.mapPointers⟩

end Sonde.System
