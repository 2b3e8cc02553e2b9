import Sonde.Bpf.Budget
import Sonde.Bpf.Footprint
import Sonde.Lib.Table
import Sonde.Protocol.ProgramImage

/-!
# The decoder of APP_DATA

A decoder program runs in the gateway, with its maps in vectors of their own. Where the allocator puts these is a parameter.
-/

namespace Sonde.Gateway.Decoder
open Lib Protocol Bpf List
open Bpf (Mem Helper HelperDescriptor MapRegion Env Region State Running Reached TurnSpares storeTarget)

def maxReadings : Nat := 32
def maxNameLen : Nat := 64
def decoderInstructionBudget : Nat := 100000
def maxDecoderMapMemory : Nat := 64 * 1024
def maxDecoderMaps : Nat := 16

inductive DecoderError where
  | imageDecode (e : DecodeError)
  | imageDecodeError (reason : String)
  | executionError (e : BpfError)
  deriving DecidableEq, Repr

structure MapInfo where
  relocatedPtr : BitVec 64
  dataStart : BitVec 64
  valueSize : BitVec 32
  maxEntries : BitVec 32
  readOnly : Bool

structure DecoderState where
  readings : Table Bytes (BitVec 64)
  count : Nat

open DecoderState

def DecoderState.new : DecoderState := ⟨∅, 0⟩

def findMap (mapInfos : List MapInfo) (relocatedPtr : BitVec 64) : Option MapInfo :=
  mapInfos.find? (·.relocatedPtr = relocatedPtr)

def helperEmitReading : Helper DecoderState := fun r1 r2 r3 _ _ mem state =>
  if r2.toNat > maxNameLen then (-1, mem, state)
  else if r2.toNat > 0 ∧ r1 ≠ 0 then
    let name := mem.slice r1 r2.toNat
    if ¬Cbor.isUtf8 name then (-1, mem, state)
    else if name ∈ state.readings then (0, mem, { state with readings := state.readings.insert name r3 })
    else if state.count ≥ maxReadings then (-2, mem, state)
    else (0, mem, ⟨state.readings.insert name r3, state.count + 1⟩)
  else (-1, mem, state)

-- Values stand one after another, without keys.
def MapInfo.valueAddress (map : MapInfo) (key : BitVec 64) : BitVec 64 := map.dataStart + key * map.valueSize.setWidth 64

def helperMapLookup (mapInfos : List MapInfo) : Helper DecoderState := fun r1 r2 _ _ _ mem state =>
  if r2 = 0 then (0, mem, state)
  else
    match findMap mapInfos r1 with
    | none => (0, mem, state)
    | some map =>
      let key := mem.load r2 4
      if key.toNat ≥ map.maxEntries.toNat then (0, mem, state) else (map.valueAddress key, mem, state)

def helperMapUpdate (mapInfos : List MapInfo) : Helper DecoderState := fun r1 r2 r3 _ _ mem state =>
  if r2 = 0 ∨ r3 = 0 then (-1, mem, state)
  else
    match findMap mapInfos r1 with
    | none => (-1, mem, state)
    | some map =>
      if map.readOnly then (-1, mem, state)
      else
        let key := mem.load r2 4
        if key.toNat ≥ map.maxEntries.toNat then (-1, mem, state)
        else (0, mem.write (map.valueAddress key) (mem.slice r3 map.valueSize.toNat), state)

-- The text goes to the log.
def helperTracePrintk : Helper DecoderState := fun _ _ _ _ _ mem state => (0, mem, state)

def decoderHelpers (mapInfos : List MapInfo) : List (HelperDescriptor DecoderState) :=
  [⟨10, helperMapLookup mapInfos, .mapValueOrNull 1⟩, ⟨11, helperMapUpdate mapInfos, .scalar⟩,
    ⟨16, helperTracePrintk, .scalar⟩, ⟨18, helperEmitReading, .scalar⟩]

def backingSize (mapDef : MapDef) : Nat := mapDef.valueSize.toNat * mapDef.maxEntries.toNat

def checkMapDef (i : Nat) (mapDef : MapDef) : Except DecoderError Unit :=
  let mapType := mapDef.mapType.toNat
  let keySize := mapDef.keySize.toNat
  let valueSize := mapDef.valueSize.toNat
  let maxEntries := mapDef.maxEntries.toNat
  if mapType > 1 then .error (.imageDecodeError s!"map {i}: unsupported map_type {mapType} (expected 0 or 1)")
  else if keySize ≠ 4 then .error (.imageDecodeError s!"map {i}: unsupported key_size {keySize} (expected 4)")
  else if backingSize mapDef ≥ 2 ^ 64 then
    .error (.imageDecodeError s!"map {i}: value_size * max_entries overflow ({valueSize} * {maxEntries})")
  else if backingSize mapDef = 0 then
    .error (.imageDecodeError s!"map {i}: zero-size map (value_size={valueSize}, max_entries={maxEntries})")
  else .ok ()

def fillBacking (i size : Nat) (initial : Bytes) : Except DecoderError Bytes :=
  let length := initial.length
  if length > size then .error (.imageDecodeError s!"map {i}: initial_data size ({length}) exceeds backing size ({size})")
  else .ok (initial ++ replicate (size - length) 0)

def backingsFrom (image : ProgramImage) (i total : Nat) : List MapDef → Except DecoderError (List Bytes)
  | [] => .ok []
  | mapDef :: rest => do
    checkMapDef i mapDef
    let total := min (total + backingSize mapDef) (2 ^ 64 - 1)
    if total > maxDecoderMapMemory then
      .error (.imageDecodeError s!"decoder map memory ({total} bytes) exceeds limit ({maxDecoderMapMemory})")
    else do
      let backing ← fillBacking i (backingSize mapDef) ((image.mapInitialData[i]?).getD [])
      let backings ← backingsFrom image (i + 1) total rest
      .ok (backing :: backings)

def mapBacking (image : ProgramImage) : Except DecoderError (List Bytes) :=
  let count := image.maps.length
  if count > maxDecoderMaps then .error (.imageDecodeError s!"decoder declares {count} maps, max is {maxDecoderMaps}")
  else backingsFrom image 0 0 image.maps

structure Heap where
  backing : Nat → BitVec 64
  ctxBuf : BitVec 64
  stack : BitVec 64

def mapRegions (heap : Heap) (image : ProgramImage) : List MapRegion :=
  image.maps.mapIdx fun i mapDef =>
    ⟨heap.backing i, 0, mapDef.valueSize, heap.backing i, heap.backing i + BitVec.ofNat 64 (backingSize mapDef)⟩

def mapInfos (heap : Heap) (image : ProgramImage) : List MapInfo :=
  image.maps.mapIdx fun i mapDef =>
    ⟨heap.backing i, heap.backing i, mapDef.valueSize, mapDef.maxEntries, (image.mapReadonly[i]?).getD false⟩

def ctxHeaderSize : Nat := 16

def Heap.blobAddr (heap : Heap) : BitVec 64 := heap.ctxBuf + BitVec.ofNat 64 ctxHeaderSize

def Heap.blobEndAddr (heap : Heap) (rawBlob : Bytes) : BitVec 64 := heap.blobAddr + BitVec.ofNat 64 rawBlob.length

def ctxBytes (heap : Heap) (rawBlob : Bytes) : Bytes :=
  (toBigEndian 8 heap.blobAddr.toNat).reverse ++ (toBigEndian 8 (heap.blobEndAddr rawBlob).toNat).reverse ++ rawBlob

def decoderEnv (heap : Heap) (overflowChecks : Bool) (image : ProgramImage) (rawBlob : Bytes) : Env DecoderState :=
  let dataRegion : Region := ⟨.context, heap.blobAddr, heap.blobEndAddr rawBlob⟩
  { prog := image.bytecode
    ctxBase := heap.ctxBuf
    ctxLen := ctxHeaderSize + rawBlob.length
    helpers := decoderHelpers (mapInfos heap image)
    maps := mapRegions heap image
    readOnlyCtx := true
    instructionBudget := BitVec.ofNat 64 decoderInstructionBudget
    ctxPtrs := [⟨0, dataRegion⟩, ⟨8, dataRegion⟩]
    stackBase := heap.stack
    overflowChecks := overflowChecks }

def placeFrom (heap : Heap) (i : Nat) (mem : Mem) : List Bytes → Mem
  | [] => mem
  | backing :: backings => placeFrom heap (i + 1) (mem.write (heap.backing i) backing) backings

def decoderMem (heap : Heap) (backings : List Bytes) (rawBlob : Bytes) (mem : Mem) : Mem :=
  (placeFrom heap 0 mem backings).write heap.ctxBuf (ctxBytes heap rawBlob)

/-- `none` is a panic. -/
def executeDecoder (reader : Cbor.Reader) (heap : Heap) (overflowChecks : Bool) (decoderImageCbor rawBlob : Bytes)
    (mem : Mem) : Option (Except DecoderError (Table Bytes (BitVec 64))) :=
  match ProgramImage.decode reader decoderImageCbor with
  | .error e => some (.error (.imageDecode e))
  | .ok image =>
    match mapBacking image with
    | .error e => some (.error e)
    | .ok backings =>
      match executeProgram (decoderEnv heap overflowChecks image rawBlob) (decoderInstructionBudget + 1)
        (decoderMem heap backings rawBlob mem) .new with
      | some (.ok _, s) => some (.ok s.host.readings)
      | some (.error (.err e), _) => some (.error (.executionError e))
      | some (.error .panicked, _) => none
      | none => none

/-- A decoder whose maps can be allocated is a run in `decoderEnv` from `decoderMem`, which ends within the budget. -/
theorem executeDecoder_runs {reader : Cbor.Reader} {image : ProgramImage} {decoderImageCbor : Bytes} {backings : List Bytes}
    (heap : Heap) (overflowChecks : Bool) (rawBlob : Bytes) (mem : Mem)
    (decodes : ProgramImage.decode reader decoderImageCbor = .ok image) (allocated : mapBacking image = .ok backings) :
    ∃ result s, executeProgram (decoderEnv heap overflowChecks image rawBlob) (decoderInstructionBudget + 1)
        (decoderMem heap backings rawBlob mem) .new = some (result, s) ∧
      executeDecoder reader heap overflowChecks decoderImageCbor rawBlob mem = match result with
        | .ok _ => some (.ok s.host.readings)
        | .error (.err e) => some (.error (.executionError e))
        | .error .panicked => none := by
  have limited : (decoderEnv heap overflowChecks image rawBlob).instructionBudget ≠ unlimitedBudget :=
    show BitVec.ofNat 64 decoderInstructionBudget ≠ unlimitedBudget by decide
  obtain ⟨⟨result, s⟩, run⟩ := Option.isSome_iff_exists.mp
    (executeProgram_returns limited (decoderMem heap backings rawBlob mem) .new)
  refine ⟨result, s, run, ?_⟩
  unfold executeDecoder
  rw [decodes]
  dsimp only
  rw [allocated]
  dsimp only
  rw [show executeProgram _ (decoderInstructionBudget + 1) _ _ = _ from run]
  cases result with
  | ok r0 => rfl
  | error e => cases e <;> rfl

/-! ## The maps at the start -/

def initialBacking (image : ProgramImage) (i : Nat) (mapDef : MapDef) : Bytes :=
  let initial := (image.mapInitialData[i]?).getD []
  initial ++ replicate (backingSize mapDef - initial.length) 0

/-- Vectors that are alive at the same time, and the stack, do not overlap. -/
structure Heap.Separate (heap : Heap) (image : ProgramImage) (rawBlob : Bytes) : Prop where
  maps : ∀ i j first second, image.maps[i]? = some first → image.maps[j]? = some second → i ≠ j → ∀ a,
    (a - heap.backing i).toNat < backingSize first → ¬(a - heap.backing j).toNat < backingSize second
  ctx : ∀ i mapDef, image.maps[i]? = some mapDef → ∀ a, (a - heap.backing i).toNat < backingSize mapDef →
    ¬(a - heap.ctxBuf).toNat < ctxHeaderSize + rawBlob.length
  stack : ∀ i mapDef, image.maps[i]? = some mapDef → ∀ a, (a - heap.backing i).toNat < backingSize mapDef →
    ¬(a - heap.stack).toNat < stackSize
  ctx_fits : ctxHeaderSize + rawBlob.length ≤ 2 ^ 64

variable {backing : Bytes} {i : Nat}

theorem fillBacking_ok {size : Nat} {initial : Bytes} (ok : fillBacking i size initial = .ok backing) :
    backing = initial ++ replicate (size - initial.length) 0 ∧ backing.length = size := by
  unfold fillBacking at ok
  dsimp only at ok
  split at ok
  · cases ok
  · cases ok
    refine ⟨rfl, ?_⟩
    rw [length_append, length_replicate]
    omega

theorem checkMapDef_ok {mapDef : MapDef} (ok : checkMapDef i mapDef = .ok ()) : 0 < backingSize mapDef := by
  unfold checkMapDef at ok
  dsimp only at ok
  repeat' split at ok
  all_goals cases ok
  omega

variable {backings : List Bytes} {image : ProgramImage} {mapDefs : List MapDef} {total k : Nat}

theorem backingsFrom_ok (ok : backingsFrom image i total mapDefs = .ok backings) (found : backings[k]? = some backing) :
    ∃ mapDef, mapDefs[k]? = some mapDef ∧ backing = initialBacking image (i + k) mapDef ∧
      backing.length = backingSize mapDef ∧ 0 < backingSize mapDef ∧ backingSize mapDef ≤ maxDecoderMapMemory := by
  induction mapDefs generalizing i total backings k with
  | nil =>
    cases ok
    simp at found
  | cons mapDef rest ih =>
    obtain ⟨_, checked, ok⟩ := bind_eq_ok.mp ok
    dsimp only at ok
    split at ok
    · cases ok
    · rename_i bounded
      obtain ⟨first, filled, ok⟩ := bind_eq_ok.mp ok
      obtain ⟨others, later, ok⟩ := bind_eq_ok.mp ok
      cases ok
      cases k with
      | zero =>
        obtain rfl : first = backing := by simpa using found
        obtain ⟨isInitial, length⟩ := fillBacking_ok filled
        refine ⟨mapDef, rfl, isInitial, length, checkMapDef_ok checked, ?_⟩
        simp only [maxDecoderMapMemory] at bounded ⊢
        omega
      | succ k =>
        have next := ih later found
        rwa [Nat.add_right_comm, Nat.add_assoc] at next

theorem backingsFrom_length (ok : backingsFrom image i total mapDefs = .ok backings) : backings.length = mapDefs.length := by
  induction mapDefs generalizing i total backings with
  | nil =>
    cases ok
    rfl
  | cons mapDef rest ih =>
    obtain ⟨_, -, ok⟩ := bind_eq_ok.mp ok
    dsimp only at ok
    split at ok
    · cases ok
    · obtain ⟨first, -, ok⟩ := bind_eq_ok.mp ok
      obtain ⟨others, later, ok⟩ := bind_eq_ok.mp ok
      cases ok
      simp [ih later]

theorem mapBacking_ok (ok : mapBacking image = .ok backings) : backingsFrom image 0 0 image.maps = .ok backings := by
  unfold mapBacking at ok
  dsimp only at ok
  split at ok
  · cases ok
  · exact ok

theorem mapBacking_own (allocated : mapBacking image = .ok backings) {mapDef : MapDef}
    (isMap : image.maps[i]? = some mapDef) :
    backings[i]? = some (initialBacking image i mapDef) ∧ (initialBacking image i mapDef).length = backingSize mapDef ∧
      0 < backingSize mapDef ∧ backingSize mapDef ≤ maxDecoderMapMemory := by
  have ok := mapBacking_ok allocated
  have bound : i < backings.length := by
    rw [backingsFrom_length ok]
    exact (List.getElem?_eq_some_iff.mp isMap).1
  obtain ⟨own, isOwn, isInitial, sized, bounds⟩ := backingsFrom_ok ok (List.getElem?_eq_getElem bound)
  obtain rfl : mapDef = own := Option.some.inj (isMap.symm.trans isOwn)
  rw [Nat.zero_add] at isInitial
  exact ⟨(List.getElem?_eq_getElem bound).trans (congrArg some isInitial), isInitial ▸ sized, bounds⟩

variable {a : BitVec 64} {mem : Mem} {heap : Heap}

theorem placeFrom_apart (apart : ∀ j backing, backings[j]? = some backing → ¬(a - heap.backing (i + j)).toNat < backing.length)
    (short : ∀ backing ∈ backings, backing.length ≤ 2 ^ 64) : placeFrom heap i mem backings a = mem a := by
  induction backings generalizing i mem with
  | nil => rfl
  | cons first rest ih =>
    change placeFrom heap (i + 1) (mem.write (heap.backing i) first) rest a = mem a
    rw [ih (fun j backing found => ?_) fun backing member => short backing (mem_cons_of_mem _ member)]
    · exact Mem.write_apart (short first mem_cons_self) (apart 0 first rfl)
    · have next := apart (j + 1) backing (by simpa using found)
      rwa [Nat.add_comm j 1, ← Nat.add_assoc] at next

theorem placeFrom_own (found : backings[k]? = some backing) (inside : (a - heap.backing (i + k)).toNat < backing.length)
    (apart : ∀ j other, backings[j]? = some other → j ≠ k → ¬(a - heap.backing (i + j)).toNat < other.length)
    (short : ∀ backing ∈ backings, backing.length ≤ 2 ^ 64) :
    placeFrom heap i mem backings a = backing[(a - heap.backing (i + k)).toNat]?.getD 0 := by
  induction backings generalizing i k mem with
  | nil => simp at found
  | cons first rest ih =>
    have restShort : ∀ backing ∈ rest, backing.length ≤ 2 ^ 64 := fun backing member =>
      short backing (mem_cons_of_mem _ member)
    have restApart (j : Nat) (other : Bytes) (isOther : rest[j]? = some other) (differs : j + 1 ≠ k) :
        ¬(a - heap.backing (i + 1 + j)).toNat < other.length := by
      have next := apart (j + 1) other (by simpa using isOther) differs
      rwa [Nat.add_comm j 1, ← Nat.add_assoc] at next
    cases k with
    | zero =>
      obtain rfl : first = backing := by simpa using found
      rw [Nat.add_zero] at inside ⊢
      change placeFrom heap (i + 1) _ rest a = _
      rw [placeFrom_apart (fun j other isOther => restApart j other isOther (by omega)) restShort]
      rw [Mem.write_apply (short first mem_cons_self), List.getElem?_eq_getElem inside]
      rfl
    | succ k =>
      rw [Nat.add_comm k 1, ← Nat.add_assoc] at inside ⊢
      exact ih (by simpa using found) inside (fun j other isOther differs => restApart j other isOther (by omega))
        restShort

section
variable {overflowChecks : Bool} {rawBlob : Bytes} {mapDef : MapDef} (separate : heap.Separate image rawBlob)
    (isMap : image.maps[i]? = some mapDef)

include separate isMap in
theorem decoderMem_own (allocated : mapBacking image = .ok backings)
    (inside : (a - heap.backing i).toNat < backingSize mapDef) :
    (decoderMem heap backings rawBlob mem).zero heap.stack stackSize a =
      (initialBacking image i mapDef)[(a - heap.backing i).toNat]?.getD 0 := by
  have ok := mapBacking_ok allocated
  have length : (ctxBytes heap rawBlob).length = ctxHeaderSize + rawBlob.length := by
    simp [ctxBytes, ctxHeaderSize]
    omega
  have offCtx : ¬(a - heap.ctxBuf).toNat < (ctxBytes heap rawBlob).length := by
    rw [length]
    exact separate.ctx i mapDef isMap a inside
  refine (if_neg (separate.stack i mapDef isMap a inside)).trans ?_
  refine (Mem.write_apart (by rw [length]; exact separate.ctx_fits) offCtx).trans ?_
  obtain ⟨found, sized, -⟩ := mapBacking_own allocated isMap
  have apart (j : Nat) (other : Bytes) (isOther : backings[j]? = some other) (differs : j ≠ i) :
      ¬(a - heap.backing (0 + j)).toNat < other.length := by
    obtain ⟨otherDef, isDef, -, otherSized, -⟩ := backingsFrom_ok ok isOther
    rw [Nat.zero_add, otherSized]
    exact separate.maps i j mapDef otherDef isMap isDef differs.symm a inside
  have short (backing : Bytes) (member : backing ∈ backings) : backing.length ≤ 2 ^ 64 := by
    obtain ⟨k, isBacking⟩ := mem_iff_getElem?.mp member
    obtain ⟨otherDef, -, -, otherSized, -, small⟩ := backingsFrom_ok ok isBacking
    simp only [maxDecoderMapMemory] at small
    omega
  have own : placeFrom heap 0 mem backings a = _ := placeFrom_own found (by rwa [Nat.zero_add, sized]) apart short
  rw [Nat.zero_add] at own
  exact own

theorem valueAddress_within {map : MapInfo} {key : BitVec 64} (inRange : key.toNat < map.maxEntries.toNat)
    (inValue : (a - map.valueAddress key).toNat < map.valueSize.toNat) :
    (a - map.dataStart).toNat < map.valueSize.toNat * map.maxEntries.toNat := by
  have size := map.valueSize.isLt
  have product : (key * map.valueSize.setWidth 64).toNat = key.toNat * map.valueSize.toNat := by
    have small : key.toNat * map.valueSize.toNat < 2 ^ 32 * 2 ^ 32 := Nat.mul_lt_mul'' (by omega) size
    rw [BitVec.toNat_mul, BitVec.toNat_setWidth, Nat.mod_eq_of_lt (show map.valueSize.toNat < 2 ^ 64 by omega),
      Nat.mod_eq_of_lt (by omega)]
  have last : key.toNat * map.valueSize.toNat + map.valueSize.toNat ≤ map.valueSize.toNat * map.maxEntries.toNat := by
    calc key.toNat * map.valueSize.toNat + map.valueSize.toNat = map.valueSize.toNat * (key.toNat + 1) := by ring
      _ ≤ map.valueSize.toNat * map.maxEntries.toNat := Nat.mul_le_mul_left _ inRange
  unfold MapInfo.valueAddress at inValue
  bv_omega

include separate isMap in
theorem helpers_spare (readOnly : image.mapReadonly[i]? = some true) {desc : HelperDescriptor DecoderState}
    (member : desc ∈ decoderHelpers (mapInfos heap image)) {r1 r2 r3 r4 r5 : BitVec 64} {state : DecoderState}
    (inside : (a - heap.backing i).toNat < backingSize mapDef) : (desc.func r1 r2 r3 r4 r5 mem state).2.1 a = mem a := by
  simp only [decoderHelpers, mem_cons, not_mem_nil, or_false] at member
  rcases member with rfl | rfl | rfl | rfl
  · simp only [helperMapLookup]
    split
    · rfl
    split
    · rfl
    split
    · rfl
    · rfl
  · simp only [helperMapUpdate]
    split
    · rfl
    cases found : findMap (mapInfos heap image) r1 with
    | none => rfl
    | some map =>
      dsimp only
      split
      · rfl
      split
      · rfl
      rename_i writable inRange
      obtain ⟨j, bound, isInfo⟩ := mem_mapIdx.mp (mem_of_find?_eq_some found)
      have isOther : image.maps[j]? = some image.maps[j] := List.getElem?_eq_getElem bound
      have differs : i ≠ j := by
        rintro rfl
        rw [← isInfo, readOnly] at writable
        exact writable rfl
      refine Mem.write_apart (by rw [Mem.length_slice]; omega) fun inValue => ?_
      rw [Mem.length_slice] at inValue
      have within := valueAddress_within (not_le.mp inRange) inValue
      rw [← isInfo] at within
      exact separate.maps i j mapDef _ isMap isOther differs a inside within
  · rfl
  · simp only [helperEmitReading]
    split
    · rfl
    split
    · split
      · rfl
      split
      · rfl
      split
      · rfl
      · rfl
    · rfl

def StoresApart (heap : Heap) (i : Nat) (mapDef : MapDef) (env : Env DecoderState) (s : State DecoderState) : Prop :=
  ∀ addr len, storeTarget env s = some (addr, len) → ∀ a, (a - heap.backing i).toNat < backingSize mapDef →
    ¬(a - addr).toNat < len

variable {s : State DecoderState}

include separate isMap in
theorem StoresApart.spares (readOnly : image.mapReadonly[i]? = some true)
    (apart : StoresApart heap i mapDef (decoderEnv heap overflowChecks image rawBlob) s) :
    TurnSpares (decoderEnv heap overflowChecks image rawBlob)
      (fun a => (a - heap.backing i).toNat < backingSize mapDef) s where
  store := apart
  helper desc called a inside := by
    have member : desc ∈ decoderHelpers (mapInfos heap image) := calledHelper_mem called
    exact helpers_spare separate isMap readOnly member inside

section
variable (allocated : mapBacking image = .ok backings) (readOnly : image.mapReadonly[i]? = some true)
    (apart : ∀ s, Running (decoderEnv heap overflowChecks image rawBlob) (decoderMem heap backings rawBlob mem)
        new s → s.pc < image.bytecode.length / insnSize →
      StoresApart heap i mapDef (decoderEnv heap overflowChecks image rawBlob) s)
include separate isMap allocated

include readOnly apart

end

end

end Sonde.Gateway.Decoder
