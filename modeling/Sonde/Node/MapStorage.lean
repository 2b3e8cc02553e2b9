import Sonde.Bpf.Memory
import Sonde.Node.Radio
import Sonde.Protocol.ProgramImage

/-!
# Map storage

The firmware build: the bytes of the maps lie in `MAP_BACKING`, a range of the address space that the interpreter's
pointers range over, and a `MapInstance` is a view of a part of it.
-/

namespace Sonde.Node
open Lib Protocol
open Bpf (Mem)

def bpfMapTypeArray : BitVec 32 := 1
def bpfMapTypeGlobalVariable : BitVec 32 := 0
def arrayMapKeySize : BitVec 32 := 4
def mapBudget : Nat := 4 * 1024
def maxMaps : Nat := 16

structure MapInstance where
  mapDef : MapDef
  ptr : BitVec 64

def entrySize (mapDef : MapDef) : Nat := mapDef.keySize.toNat + mapDef.valueSize.toNat

def totalSize (mapDef : MapDef) : Nat := entrySize mapDef * mapDef.maxEntries.toNat

namespace MapInstance

variable (map : MapInstance)

def storageBytes : Nat := totalSize map.mapDef

def data (mem : Mem) : Bytes := mem.slice map.ptr map.storageBytes

def valueOffset (key : Nat) : Nat := key * entrySize map.mapDef + map.mapDef.keySize.toNat

def lookup (key : Nat) : Option (BitVec 64) :=
  if key ≥ map.mapDef.maxEntries.toNat then none
  else
    let offset := map.valueOffset key
    if offset + map.mapDef.valueSize.toNat > map.storageBytes then none else some (map.ptr + BitVec.ofNat 64 offset)

def update (key : Nat) (value : Bytes) : Program Mem NodeError Unit :=
  if key ≥ map.mapDef.maxEntries.toNat then .stop (.mapKeyOutOfBounds key map.mapDef.maxEntries.toNat)
  else if value.length ≠ map.mapDef.valueSize.toNat then
    .stop (.mapValueSizeMismatch map.mapDef.valueSize.toNat value.length)
  else
    let offset := map.valueOffset key
    if offset + map.mapDef.valueSize.toNat > map.storageBytes then
      .stop (.mapKeyOutOfBounds key map.mapDef.maxEntries.toNat)
    else Program.update fun mem => mem.write (map.ptr + BitVec.ofNat 64 offset) value

end MapInstance

structure MapStorage where
  budgetBytes : Nat
  maps : List MapInstance

namespace MapStorage

-- `usize` is 32 bits wide. No other `checked_add` or `checked_mul` overflows when these do not.
def requiredBytesChecked (mapDefs : List MapDef) : Option Nat :=
  let total := (mapDefs.map totalSize).sum
  if total < 2 ^ 32 ∧ ∀ mapDef ∈ mapDefs, entrySize mapDef < 2 ^ 32 then some total else none

def requiredBytes (mapDefs : List MapDef) : Nat := (requiredBytesChecked mapDefs).getD (2 ^ 32 - 1)

def validateMapDef (mapDef : MapDef) : Except NodeError Unit :=
  if mapDef.mapType ≠ bpfMapTypeArray ∧ mapDef.mapType ≠ bpfMapTypeGlobalVariable then
    .error (.programDecodeFailed "unsupported map type: only global variable (0) and BPF_MAP_TYPE_ARRAY (1) are supported")
  else if mapDef.keySize ≠ arrayMapKeySize then .error (.programDecodeFailed "array map key_size must be 4 (u32)")
  else if mapDef.maxEntries = 0 then
    .error (.programDecodeFailed
      "map max_entries must be > 0: zero-entry maps produce duplicate data_ptr() values and break map indexing")
  else if mapDef.valueSize = 0 then
    .error (.programDecodeFailed "map value_size must be > 0: zero-byte values are not supported")
  else .ok ()

def validateMapDefs (mapDefs : List MapDef) : Except NodeError Unit := do
  if mapDefs.length > maxMaps then .error (.programDecodeFailed "program defines too many maps (exceeds MAX_MAPS)")
  else do
    mapDefs.forM validateMapDef
    if requiredBytesChecked mapDefs = none then
      .error (.programDecodeFailed "invalid map definitions: size calculation overflowed")
    else .ok ()

def layOut (ptr : BitVec 64) : List MapDef → List MapInstance
  | [] => []
  | mapDef :: mapDefs => ⟨mapDef, ptr⟩ :: layOut (ptr + BitVec.ofNat 64 (totalSize mapDef)) mapDefs

-- `make_map_data` zeroes the part that it hands out.
def clearMaps (mem : Mem) (maps : List MapInstance) : Mem :=
  maps.foldl (fun mem map => mem.zero map.ptr map.storageBytes) mem

def allocate (backing : BitVec 64) (mapDefs : List MapDef) : Program (MapStorage × Mem) NodeError Unit := do
  Program.ofExcept (validateMapDefs mapDefs)
  let required := requiredBytes mapDefs
  let budgetBytes ← Program.read fun s => s.1.budgetBytes
  if required > budgetBytes then .stop (.mapBudgetExceeded required budgetBytes)
  else if required > mapBudget then .stop (.mapBudgetExceeded required mapBudget)
  else do
    let maps := layOut backing mapDefs
    Program.update fun s => (s.1, clearMaps s.2 maps)
    Program.update fun s => ({ s.1 with maps := maps }, s.2)

-- The result of `update` is dropped.
def applyInitial (mem : Mem) (entry : MapInstance × Bytes) : Mem :=
  if entry.2 = [] then mem
  else if entry.2.length = entry.1.mapDef.valueSize.toNat then (entry.1.update 0 entry.2 mem).2
  else mem

variable (storage : MapStorage)

def applyInitialData (initialData : List Bytes) (mem : Mem) : Mem :=
  (storage.maps.zip initialData).foldl applyInitial mem

def clearAll (mem : Mem) : Mem := clearMaps mem storage.maps

def mapPointers : List (BitVec 64) := storage.maps.map (·.ptr)

def mapDefs : List MapDef := storage.maps.map (·.mapDef)

def layoutMatches (mapDefs : List MapDef) : Bool := storage.mapDefs = mapDefs

/-- The storage that `from_rtc` builds from the layout record, or a new one where it gives `None`. -/
def fromRtc (backing : BitVec 64) (budgetBytes : Nat) (layout : List MapDef) : MapStorage :=
  let empty : MapStorage := ⟨budgetBytes, []⟩
  if layout.length = 0 ∨ layout.length > maxMaps then empty
  else
    match requiredBytesChecked layout with
    | none => empty
    | some total =>
      if total > budgetBytes ∨ total > mapBudget then empty
      else
        match validateMapDefs layout with
        | .error _ => empty
        | .ok () => { empty with maps := layOut backing layout }

end MapStorage

end Sonde.Node
