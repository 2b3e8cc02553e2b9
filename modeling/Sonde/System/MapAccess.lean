import Sonde.System.ReadOnlyMaps

/-!
# Two ways to a map's value

A program gets at the value of entry 0 of a map by `LD_DW_IMM` with `src = 6`, or by `map_lookup_elem`. The maps of the
node have a key before each value, those of the decoder have none.
-/

open Sonde.Lib Sonde.Protocol Sonde.Node BitVec List
open Sonde.Bpf (Mem Env Region TaggedReg MapRegion HelperDescriptor mapAt mapValueAt mapValueResult checkAccess)
open Sonde.Gateway.Decoder (Heap MapInfo decoderEnv decoderMem decoderMem_own mapBacking mapBacking_own backingSize mapInfos
  mapRegions findMap helperMapLookup initialBacking maxDecoderMaps maxDecoderMapMemory)

namespace Sonde.System

variable {ω : Type} {env : Env ω} {i o : Nat} {map : MapRegion}

def descriptor (map : MapRegion) (i : Nat) : TaggedReg :=
  ⟨map.relocatedPtr, some ⟨.mapDescriptor (BitVec.ofNat 32 i), 0, 0⟩⟩

-- The address that a register stands for, where an address has `pointerWidth` bits.
def pointer (env : Env ω) (r : BitVec 64) : BitVec 64 := (r.setWidth env.pointerWidth).setWidth 64

/-- `direct` is what `LD_DW_IMM` makes of offset `o` in map `i`. `looked` is what `map_lookup_elem` returns for key 0,
whatever the calls and stores before have left in memory. -/
structure SameAccess (env : Env ω) (i o : Nat) (start : Mem) (byte : BitVec 8) (map : MapRegion) (lookup : HelperDescriptor ω)
    (direct looked : TaggedReg) : Prop where
  loads : ∀ pc, mapAt env pc (BitVec.ofNat 32 i) = .ok (i, map) ∧ mapValueAt pc map (BitVec.ofNat 32 o) = .ok direct
  helper : env.helpers.find? (·.id = 10) = some lookup ∧ lookup.ret = .mapValueOrNull 1
  returns : ∀ r2 r3 r4 r5 mem host, pointer env r2 ≠ 0 → mem.load (pointer env r2) 4 = 0 →
    lookup.func (descriptor map i).value r2 r3 r4 r5 mem host = (looked.value, mem, host)
  tagged : ∀ pc, mapValueResult env pc 1 (descriptor map i) looked.value = .ok looked
  same : direct = ⟨looked.value + BitVec.ofNat 64 o, looked.region⟩
  readable : ∀ pc, ∃ region, checkAccess direct 0 1 pc = .ok (region, direct.value)
  initial : start.zero env.stackBase Bpf.stackSize direct.value = byte

def valueBase (map : MapRegion) : BitVec 64 := BitVec.ofNat 64 (map.dataStart.toNat + map.keySize.toNat)

def valueRegion (map : MapRegion) : Region :=
  ⟨.mapValue map.valueSize, valueBase map, BitVec.ofNat 64 (map.dataStart.toNat + map.keySize.toNat + map.valueSize.toNat)⟩

theorem toInt_small {n : Nat} (small : n < 2 ^ 31) : (BitVec.ofNat 32 n).toInt = n := by
  have value : (BitVec.ofNat 32 n).toNat = n := by
    rw [toNat_ofNat]
    omega
  rw [toInt_eq_toNat_of_lt (by omega), value]

theorem sameAccess {start : Mem} {byte : BitVec 8} {lookup : HelperDescriptor ω} (found : env.maps[i]? = some map)
    (fits : map.dataStart.toNat + map.keySize.toNat + map.valueSize.toNat ≤ map.dataEnd.toNat)
    (notNull : map.dataStart ≠ 0) (inside : o < map.valueSize.toNat) (few : i < 2 ^ 31) (short : o < 2 ^ 31)
    (helper : env.helpers.find? (·.id = 10) = some lookup ∧ lookup.ret = .mapValueOrNull 1)
    (returns : ∀ r2 r3 r4 r5 mem host, pointer env r2 ≠ 0 → mem.load (pointer env r2) 4 = 0 →
      lookup.func map.relocatedPtr r2 r3 r4 r5 mem host = (valueBase map, mem, host))
    (initial : start.zero env.stackBase Bpf.stackSize (valueBase map + BitVec.ofNat 64 o) = byte) :
    ∃ map lookup direct looked, SameAccess env i o start byte map lookup direct looked := by
  have base : (valueBase map).toNat = map.dataStart.toNat + map.keySize.toNat := by
    rw [valueBase, toNat_ofNat]
    omega
  have index : (BitVec.ofNat 32 i).toNat = i := by
    rw [toNat_ofNat]
    omega
  refine ⟨map, lookup, _, ⟨valueBase map, some (valueRegion map)⟩, fun pc => ⟨?_, ?_⟩, helper, returns, fun pc => ?_, rfl,
    fun pc => ?_, initial⟩
  · rw [mapAt, if_neg (by rw [toInt_small few]; omega), index, found]
  · have address : BitVec.ofInt 64 ((map.dataStart.toNat + map.keySize.toNat : Nat) + (o : Int)) =
        valueBase map + BitVec.ofNat 64 o := by
      rw [← Nat.cast_add, ofInt_natCast, valueBase, ofNat_add_ofNat]
    unfold mapValueAt
    rw [toInt_small short, if_neg (by omega), if_neg (by omega), if_neg (by omega), if_neg (by omega), if_neg (by omega),
      address]
    rfl
  · rw [mapValueResult, if_neg (by dsimp only; bv_omega)]
    simp only [descriptor, index, found, valueRegion, base]
    rw [if_neg (by omega), if_neg (by bv_omega)]
  · have value : (valueBase map + BitVec.ofNat 64 o).toNat = map.dataStart.toNat + map.keySize.toNat + o := by
      rw [toNat_add, toNat_ofNat, base]
      omega
    have address : (⟨valueBase map + BitVec.ofNat 64 o, some (valueRegion map)⟩ : TaggedReg).address 0 =
        valueBase map + BitVec.ofNat 64 o := by simp [TaggedReg.address]
    refine ⟨valueRegion map, ?_⟩
    unfold checkAccess
    dsimp only
    rw [address, if_neg (by simp [valueRegion, Bpf.RegionTag.isDescriptor]), if_neg (by omega), if_neg ?_]
    simp only [valueRegion]
    rw [lt_def, lt_def, toNat_add (valueBase map + _), value, base, toNat_ofNat, toNat_ofNat]
    omega

theorem find?_only {α : Type} {l : List α} {p : α → Bool} {a : α} (member : a ∈ l) (here : p a)
    (only : ∀ b ∈ l, p b → b = a) : l.find? p = some a := by
  obtain ⟨b, found⟩ := Option.isSome_iff_exists.mp (find?_isSome.mpr ⟨a, member, here⟩)
  rw [found, only b (mem_of_find?_eq_some found) (find?_some found)]

/-! ## The node -/

theorem regionsFrom_ok {index k : Nat} {pairs : List (BitVec 64 × MapDef)} {regions : List MapRegion} {ptr : BitVec 64}
    {mapDef : MapDef} (ok : regionsFrom index pairs = .ok regions) (found : pairs[k]? = some (ptr, mapDef)) : ptr ≠ 0 ∧
      regions[k]? = some ⟨ptr, mapDef.keySize, mapDef.valueSize, ptr, ptr + BitVec.ofNat 64 (totalSize mapDef)⟩ := by
  induction pairs generalizing index k regions with
  | nil => simp at found
  | cons pair pairs ih =>
    obtain ⟨region, first, ok⟩ := bind_eq_ok.mp ok
    obtain ⟨later, rest, ok⟩ := bind_eq_ok.mp ok
    cases ok
    cases k with
    | zero =>
      obtain rfl : pair = (ptr, mapDef) := by simpa using found
      unfold regionOf at first
      split at first
      · cases first
      split at first
      · cases first
      split at first
      · cases first
      · rename_i notNull _ _
        cases first
        exact ⟨notNull, rfl⟩
    | succ k => simpa using ih rest (by simpa using found)

section
variable {space : AddressSpace} {storage allocated : MapStorage} {mapDefs : List MapDef} {before cleared : Mem}
    {map : MapInstance} (ok : MapStorage.allocate space.mapBacking mapDefs (storage, before) = (.ok (), allocated, cleared))
include ok

theorem allocated_nodup : allocated.mapPointers.Nodup := by
  have apart := layOut_disjoint (allocate_fits ok)
  have full (map : MapInstance) (member : map ∈ allocated.maps) : map.Holds map.ptr := by
    obtain ⟨keySize, entries⟩ := allocated_entries ok member
    have size : 0 < map.storageBytes := Nat.mul_pos (by rw [entrySize, keySize]; exact Nat.add_pos_left (by decide) _) entries
    simpa [MapInstance.Holds] using size
  obtain ⟨-, result⟩ := allocate_eq_ok.mp ok
  cases result
  refine pairwise_map.mpr (apart.imp_of_mem fun {first second} isFirst isSecond disjoint same => ?_)
  exact disjoint.1 first.ptr (full first isFirst) (same ▸ full second isSecond)

theorem allocated_mapDefs : allocated.mapDefs = mapDefs := by
  obtain ⟨-, result⟩ := allocate_eq_ok.mp ok
  cases result
  exact mapDefs_layOut ..

theorem allocated_few : allocated.maps.length ≤ maxMaps := by
  have length := congrArg length (allocated_mapDefs ok)
  rw [MapStorage.mapDefs, length_map] at length
  exact length ▸ validateMapDefs_length (allocate_eq_ok.mp ok).1.valid

theorem allocated_found (isMap : allocated.maps[i]? = some map) {dispatch : Dispatch}
    (maps : dispatch.maps = allocated.maps) (index : dispatch.mapPtrIndex = mapPtrIndex allocated.mapPointers) :
    dispatch.map? map.ptr = some map := by
  have nodup := allocated_nodup ok
  have isPtr : allocated.mapPointers[i]? = some map.ptr := by
    rw [MapStorage.mapPointers, List.getElem?_map, isMap]
    rfl
  have few : allocated.mapPointers.length ≤ maxMaps := by
    rw [MapStorage.mapPointers, length_map]
    exact allocated_few ok
  have found : allocated.mapPointers.zipIdx.find? (·.1 = map.ptr) = some (map.ptr, i) := by
    refine find?_only (mem_zipIdx_iff_getElem?.mpr isPtr) (by simp) fun entry member here => ?_
    have isEntry := mem_zipIdx_iff_getElem?.mp member
    rw [of_decide_eq_true here] at isEntry
    exact Prod.ext (of_decide_eq_true here)
      ((List.getElem?_inj (List.getElem?_eq_some_iff.mp isEntry).1 nodup).mp (isEntry.trans isPtr.symm))
  rw [Dispatch.map?, index, mapPtrIndex, if_pos ⟨few, nodup⟩, found, maps]
  exact isMap

theorem allocated_region {bytecode : Bytes} {regions : List MapRegion}
    (loaded : loadRegions bytecode allocated.mapPointers mapDefs = .ok regions) (isMap : allocated.maps[i]? = some map) :
    map.ptr ≠ 0 ∧ regions[i]? = some
      ⟨map.ptr, map.mapDef.keySize, map.mapDef.valueSize, map.ptr, map.ptr + BitVec.ofNat 64 map.storageBytes⟩ := by
  have pair : (allocated.mapPointers.zip mapDefs)[i]? = some (map.ptr, map.mapDef) := by
    rw [← allocated_mapDefs ok]
    simp [MapStorage.mapPointers, MapStorage.mapDefs, List.getElem?_zip_eq_some, isMap]
  unfold loadRegions at loaded
  split at loaded
  · cases loaded
  split at loaded
  · cases loaded
  split at loaded
  · cases loaded
  · exact regionsFrom_ok loaded pair

theorem allocated_byte (isMap : allocated.maps[i]? = some map) {initialData : List Bytes} {data : Bytes}
    (isData : initialData[i]? = some data) (length : data.length = map.mapDef.valueSize.toNat) {o : Nat} {byte : BitVec 8}
    (isByte : data[o]? = some byte) (ctx : SondeContext) :
    ((allocated.applyInitialData initialData cleared).write space.ctxBase ctx.toBytes).zero space.stackBase
      Bpf.stackSize (map.ptr + BitVec.ofNat 64 (map.mapDef.keySize.toNat + o)) = byte := by
  have member := mem_of_getElem? isMap
  have bounds := allocated_within ok member
  have inside : map.mapDef.keySize.toNat + o < map.storageBytes := by
    have bound := (List.getElem?_eq_some_iff.mp isByte).1
    exact (by rw [entrySize]; omega : _ < entrySize map.mapDef).trans_le (entrySize_le_total (allocated_entries ok member).2)
  have holds : map.Holds (map.ptr + BitVec.ofNat 64 (map.mapDef.keySize.toNat + o)) := by
    simp only [MapInstance.Holds, mapBudget] at *
    bv_omega
  have fresh := congrArg (fun bytes => bytes[map.mapDef.keySize.toNat + o]?.getD 0) (allocated_fresh ok isMap isData)
  rw [usable_eq (.inr length), MapInstance.data, Mem.getElem?_slice inside, initialBytes_value (Nat.le_add_right _ _),
    Nat.add_sub_cancel_left, isByte] at fresh
  exact (start_mem ctx bounds holds).trans fresh

end

/-! ## The decoder -/

variable {heap : Heap} {image : ProgramImage} {rawBlob : Bytes} {backings : List Bytes} {mapDef : MapDef}

/-- A vector that is not empty lies at an address other than null, and within the address space. -/
def Placed (heap : Heap) (image : ProgramImage) : Prop := ∀ i mapDef, image.maps[i]? = some mapDef →
  heap.backing i ≠ 0 ∧ (heap.backing i).toNat + backingSize mapDef < 2 ^ 64

theorem findMap_own (separate : heap.Separate image rawBlob) (allocated : mapBacking image = .ok backings)
    (isMap : image.maps[i]? = some mapDef) : findMap (mapInfos heap image) (heap.backing i) =
      some ⟨heap.backing i, heap.backing i, mapDef.valueSize, mapDef.maxEntries, (image.mapReadonly[i]?).getD false⟩ := by
  have full {j : Nat} {other : MapDef} (isOther : image.maps[j]? = some other) : 0 < backingSize other :=
    (mapBacking_own allocated isOther).2.2.1
  obtain ⟨bound, rfl⟩ := List.getElem?_eq_some_iff.mp isMap
  refine find?_only (mem_mapIdx.mpr ⟨i, bound, rfl⟩) (by simp) fun info member here => ?_
  obtain ⟨j, inside, rfl⟩ := mem_mapIdx.mp member
  have same : heap.backing j = heap.backing i := of_decide_eq_true here
  have isOther : image.maps[j]? = some image.maps[j] := List.getElem?_eq_getElem inside
  by_cases differs : i = j
  · subst differs
    rfl
  · have apart := separate.maps i j _ _ isMap isOther differs (heap.backing i) (by simpa using full isMap)
    rw [same] at apart
    exact absurd (by simpa using full isOther) apart

theorem map_access_agrees :
    (∀ (τ : Type) (link : Link τ) (hal : Hal τ) (provider : Provider) (reader : Cbor.Reader) (space : AddressSpace)
        (overflowChecks : Bool) (storage allocated : MapStorage) (mapDefs : List MapDef) (before cleared : Mem)
        (bytecode : Bytes) (regions : List MapRegion) (dispatch : Dispatch) (ctx : SondeContext) (budget : Nat)
        (map : MapInstance) (initialData : List Bytes) (data : Bytes) (i o : Nat) (byte : BitVec 8),
      MapStorage.allocate space.mapBacking mapDefs (storage, before) = (.ok (), allocated, cleared) →
      loadRegions bytecode allocated.mapPointers mapDefs = .ok regions →
      dispatch.maps = allocated.maps → dispatch.mapPtrIndex = mapPtrIndex allocated.mapPointers →
      allocated.maps[i]? = some map → initialData[i]? = some data → data.length = map.mapDef.valueSize.toNat →
      data[o]? = some byte → ∃ region lookup direct looked, SameAccess
        (sondeBpfEnv space overflowChecks (Node.registered link hal provider reader dispatch) bytecode regions budget) i o
        ((allocated.applyInitialData initialData cleared).write space.ctxBase ctx.toBytes) byte region lookup direct looked) ∧
    ∀ (heap : Heap) (overflowChecks : Bool) (image : ProgramImage) (rawBlob : Bytes) (backings : List Bytes) (mem : Mem)
        (mapDef : MapDef) (data : Bytes) (i o : Nat) (byte : BitVec 8),
      heap.Separate image rawBlob → Placed heap image → mapBacking image = .ok backings →
      image.maps[i]? = some mapDef → image.mapInitialData[i]? = some data → data.length = mapDef.valueSize.toNat →
      data[o]? = some byte →
      ∃ region lookup direct looked, SameAccess (decoderEnv heap overflowChecks image rawBlob) i o
        (decoderMem heap backings rawBlob mem) byte region lookup direct looked := by
  constructor
  · intro τ link hal provider reader space overflowChecks storage allocated mapDefs before cleared bytecode regions dispatch
      ctx budget map initialData data i o byte ok loaded maps index isMap isData length isByte
    have member := mem_of_getElem? isMap
    have bounds := allocated_within ok member
    have entries := (allocated_entries ok member).2
    have first : entrySize map.mapDef ≤ map.storageBytes := entrySize_le_total entries
    have few := (List.getElem?_eq_some_iff.mp isMap).1.trans_le (allocated_few ok)
    have inside := (List.getElem?_eq_some_iff.mp isByte).1
    have fits := space.backing_fits
    obtain ⟨notNull, isRegion⟩ := allocated_region ok loaded isMap
    simp only [mapBudget, maxMaps, entrySize] at bounds fits few first
    have base : map.ptr + BitVec.ofNat 64 (map.valueOffset 0) =
        BitVec.ofNat 64 (map.ptr.toNat + map.mapDef.keySize.toNat) := by
      rw [MapInstance.valueOffset, Nat.zero_mul, Nat.zero_add]
      bv_omega
    refine sameAccess isRegion ?_ notNull (length ▸ inside) (by omega) (by omega) ⟨rfl, rfl⟩ ?_ ?_
    · dsimp only
      rw [toNat_add, toNat_ofNat]
      omega
    · intro r2 r3 r4 r5 mem host valid key
      have looked : map.lookup 0 = some _ := lookup_eq_some.mpr ⟨entries, base.symm⟩
      change usize r2 ≠ 0 at valid
      change mem.load (usize r2) 4 = 0 at key
      dsimp only [helperMapLookupElem]
      rw [if_neg valid, key, allocated_found ok isMap maps index]
      exact congrArg (fun found => (Option.getD found 0, mem, host)) looked
    · have address : BitVec.ofNat 64 (map.ptr.toNat + map.mapDef.keySize.toNat) + BitVec.ofNat 64 o =
          map.ptr + BitVec.ofNat 64 (map.mapDef.keySize.toNat + o) := by bv_omega
      exact (congrArg _ address).trans (allocated_byte ok isMap isData length isByte ctx)
  · intro heap overflowChecks image rawBlob backings mem mapDef data i o byte separate placed allocated isMap isData length
      isByte
    obtain ⟨-, -, full, small⟩ := mapBacking_own allocated isMap
    obtain ⟨notNull, fits⟩ := placed i mapDef isMap
    have inside := (List.getElem?_eq_some_iff.mp isByte).1
    have entries : 0 < mapDef.maxEntries.toNat := Nat.pos_of_mul_pos_left full
    have first : mapDef.valueSize.toNat ≤ backingSize mapDef := Nat.le_mul_of_pos_right _ entries
    have few : image.maps.length ≤ maxDecoderMaps := by
      by_contra many
      simp [mapBacking, not_le.mp many] at allocated
    have index := (List.getElem?_eq_some_iff.mp isMap).1
    simp only [maxDecoderMapMemory, maxDecoderMaps] at small few
    have base : BitVec.ofNat 64 ((heap.backing i).toNat + (0 : BitVec 32).toNat) = heap.backing i := by simp
    have isRegion : (decoderEnv heap overflowChecks image rawBlob).maps[i]? = some ⟨heap.backing i, 0, mapDef.valueSize,
        heap.backing i, heap.backing i + BitVec.ofNat 64 (backingSize mapDef)⟩ := by simp [decoderEnv, mapRegions, isMap]
    refine sameAccess isRegion ?_ notNull (length ▸ inside) (by omega) (by omega) ⟨rfl, rfl⟩ ?_ ?_
    · dsimp only
      rw [toNat_add, toNat_ofNat]
      change (heap.backing i).toNat + 0 + _ ≤ _
      omega
    · intro r2 r3 r4 r5 mem state valid key
      have wide : pointer (decoderEnv heap overflowChecks image rawBlob) r2 = r2 := by
        rw [pointer, show (decoderEnv heap overflowChecks image rawBlob).pointerWidth = 64 from rfl, setWidth_eq,
          setWidth_eq]
      rw [wide] at valid key
      dsimp only [helperMapLookup, valueBase]
      rw [if_neg valid, findMap_own separate allocated isMap, key, base]
      exact (if_neg (not_le.mpr entries)).trans (by simp [MapInfo.valueAddress])
    · have offset : (heap.backing i + BitVec.ofNat 64 o - heap.backing i).toNat = o := by bv_omega
      dsimp only [valueBase]
      rw [base]
      refine (decoderMem_own separate isMap allocated (by omega)).trans ?_
      rw [offset, initialBacking, isData, Option.getD_some, List.getElem?_append_left inside, isByte]
      rfl

theorem map_access_agrees_small :
    (∃ region lookup direct looked, SameAccess (sondeBpfEnv smallSpace true (Node.registered scriptedPlatform.toLink
        scriptedPlatform.toHal plainProvider .definite romDispatch) exits [⟨0x10000, 4, 1, 0x10000, 0x10005⟩] 10) 0 0
      (romMem.write smallSpace.ctxBase (⟨0, 0, 0, 0, 0, 0⟩ : SondeContext).toBytes) 7 region lookup direct looked) ∧
    ∃ region lookup direct looked, SameAccess (decoderEnv smallHeap true (romImage exits) []) 0 0
      (decoderMem smallHeap [[7]] [] fun _ => 0xff) 7 region lookup direct looked := by
  refine ⟨map_access_agrees.1 _ _ _ _ _ _ _ ⟨mapBudget, []⟩ romStorage [romDef] (fun _ => 0xff) _ _ _ _ _ _ romInstance
    [[7]] [7] 0 0 7 rfl rfl rfl rfl rfl rfl rfl rfl, map_access_agrees.2 _ _ _ _ _ _ romDef [7] 0 0 7
    (smallHeap_separate exits) ?_ (by decide +kernel) rfl rfl rfl rfl⟩
  intro i mapDef isMap
  obtain ⟨rfl, rfl⟩ := romImage_map isMap
  decide

end Sonde.System
