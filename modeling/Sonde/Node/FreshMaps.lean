import Sonde.Node.BpfRuntime

/-!
# Maps as an installation leaves them

`allocate` lays the maps out one after another and clears them, `apply_initial_data` then writes the value of entry 0.
-/

namespace Sonde.Node
open Lib Protocol MapStorage List MapInstance
open Bpf (Mem)

def MapInstance.Holds (map : MapInstance) (a : BitVec 64) : Prop := (a - map.ptr).toNat < map.storageBytes

def MapInstance.Disjoint (map other : MapInstance) : Prop := ∀ a, map.Holds a → ¬other.Holds a

def initialBytes (mapDef : MapDef) (data : Bytes) : Bytes :=
  replicate mapDef.keySize.toNat 0 ++ data ++ replicate (totalSize mapDef - mapDef.keySize.toNat - data.length) 0

variable {ptr : BitVec 64} {mapDefs : List MapDef} {map : MapInstance}

theorem layOut_within (fits : ptr.toNat + (mapDefs.map totalSize).sum < 2 ^ 64)
    (member : map ∈ layOut ptr mapDefs) :
    ptr.toNat ≤ map.ptr.toNat ∧ map.ptr.toNat + map.storageBytes ≤ ptr.toNat + (mapDefs.map totalSize).sum := by
  induction mapDefs generalizing ptr with
  | nil => cases member
  | cons mapDef mapDefs ih =>
    rw [map_cons, sum_cons] at fits ⊢
    rcases mem_cons.mp member with rfl | later
    · exact ⟨le_rfl, by simp only [storageBytes]; omega⟩
    · have next : (ptr + BitVec.ofNat 64 (totalSize mapDef)).toNat = ptr.toNat + totalSize mapDef := by
        rw [BitVec.toNat_add, BitVec.toNat_ofNat]
        omega
      have bounds := ih (by omega) later
      omega

theorem layOut_disjoint (fits : ptr.toNat + (mapDefs.map totalSize).sum < 2 ^ 64) :
    (layOut ptr mapDefs).Pairwise fun map other => map.Disjoint other ∧ other.Disjoint map := by
  induction mapDefs generalizing ptr with
  | nil => exact .nil
  | cons mapDef mapDefs ih =>
    rw [map_cons, sum_cons] at fits
    have next : (ptr + BitVec.ofNat 64 (totalSize mapDef)).toNat = ptr.toNat + totalSize mapDef := by
      rw [BitVec.toNat_add, BitVec.toNat_ofNat]
      omega
    refine pairwise_cons.mpr ⟨fun other member => ?_, ih (by omega)⟩
    have bounds := layOut_within (by omega) member
    constructor
    · intro a first second
      simp only [Holds, storageBytes] at first second bounds
      bv_omega
    · intro a second first
      simp only [Holds, storageBytes] at first second bounds
      bv_omega

theorem layOut_mapDef (member : map ∈ layOut ptr mapDefs) : map.mapDef ∈ mapDefs := by
  induction mapDefs generalizing ptr with
  | nil => cases member
  | cons mapDef mapDefs ih =>
    rcases mem_cons.mp member with rfl | later
    · exact mem_cons_self
    · exact mem_cons_of_mem _ (ih later)

/-! ## Writes to a map -/

variable {mapDef : MapDef}

theorem entrySize_le_total (entries : 0 < mapDef.maxEntries.toNat) : entrySize mapDef ≤ totalSize mapDef :=
  Nat.le_mul_of_pos_right _ entries

variable {a : BitVec 64} {mem : Mem} {key : Nat} {value : Bytes} {mem' : Mem}

theorem valueOffset_le (inRange : key < map.mapDef.maxEntries.toNat) :
    map.valueOffset key + map.mapDef.valueSize.toNat ≤ map.storageBytes := by
  have entries := Nat.mul_le_mul_right (entrySize map.mapDef) (Nat.succ_le_of_lt inRange)
  rw [Nat.succ_mul] at entries
  rw [storageBytes, totalSize, Nat.mul_comm (entrySize _)]
  refine le_trans (le_of_eq ?_) entries
  rw [valueOffset, entrySize, Nat.add_assoc]

theorem lookup_eq_some {addr : BitVec 64} : map.lookup key = some addr ↔
    key < map.mapDef.maxEntries.toNat ∧ addr = map.ptr + BitVec.ofNat 64 (map.valueOffset key) := by
  unfold MapInstance.lookup
  split
  · simp
    omega
  · rename_i inRange
    rw [if_neg (not_lt.mpr (valueOffset_le (not_le.mp inRange))), Option.some_inj, eq_comm]
    simp [not_le.mp inRange]

theorem update_eq_ok : map.update key value mem = (.ok (), mem') ↔ key < map.mapDef.maxEntries.toNat ∧
    value.length = map.mapDef.valueSize.toNat ∧ mem' = mem.write (map.ptr + BitVec.ofNat 64 (map.valueOffset key)) value := by
  unfold update
  split
  · simp [Program.stop_run]
    omega
  rename_i inRange
  split
  · rename_i length
    simp [Program.stop_run, length]
  rename_i length
  rw [if_neg (not_lt.mpr (valueOffset_le (not_le.mp inRange))), Program.update_run]
  simp [not_le.mp inRange, not_not.mp length, eq_comm]

-- Every check comes before the write.
theorem update_failed {e : NodeError} (failed : map.update key value mem = (.error e, mem')) : mem' = mem := by
  simp only [update] at failed
  split_ifs at failed
  all_goals cases failed
  all_goals rfl

variable (updated : map.update key value mem = (.ok (), mem'))

include updated in
theorem update_apart
    (apart : ∀ addr, map.lookup key = some addr → ¬(a - addr).toNat < map.mapDef.valueSize.toNat) : mem' a = mem a := by
  obtain ⟨inRange, length, rfl⟩ := update_eq_ok.mp updated
  exact Mem.write_apart (by omega) (length ▸ apart _ (lookup_eq_some.mpr ⟨inRange, rfl⟩))

include updated in
theorem update_outside (outside : ¬map.Holds a) : mem' a = mem a := by
  refine update_apart updated fun addr found => ?_
  obtain ⟨inRange, rfl⟩ := lookup_eq_some.mp found
  have inside := valueOffset_le inRange
  simp only [Holds] at outside
  bv_omega

theorem update_first (entries : 0 < map.mapDef.maxEntries.toNat) (length : value.length = map.mapDef.valueSize.toNat)
    (mem : Mem) : map.update 0 value mem = (.ok (), mem.write (map.ptr + BitVec.ofNat 64 map.mapDef.keySize.toNat) value) :=
  update_eq_ok.mpr ⟨entries, length, by rw [valueOffset, Nat.zero_mul, Nat.zero_add]⟩

variable {data : Bytes}

theorem applyInitial_outside (outside : ¬map.Holds a) : applyInitial mem (map, data) a = mem a := by
  unfold applyInitial
  split
  · rfl
  split
  · cases result : (map.update 0 data mem).1 with
    | error e => exact congrFun (update_failed (Prod.ext result rfl)) a
    | ok _ => exact update_outside (Program.run_of_ok result) outside
  · rfl

theorem initialBytes_nil (mapDef : MapDef) (k : Nat) : (initialBytes mapDef [])[k]?.getD 0 = 0 := by
  rw [initialBytes, append_nil, replicate_append_replicate, getElem?_replicate]
  split
  · rfl
  · rfl

variable {k : Nat}

theorem initialBytes_value (value : mapDef.keySize.toNat ≤ k) :
    (initialBytes mapDef data)[k]?.getD 0 = data[k - mapDef.keySize.toNat]?.getD 0 := by
  rw [initialBytes, append_assoc, getElem?_append_right (by simpa using value), length_replicate]
  by_cases inData : k - mapDef.keySize.toNat < data.length
  · rw [getElem?_append_left inData]
  · rw [getElem?_append_right (by omega), getElem?_replicate, getElem?_eq_none (by omega)]
    split
    · rfl
    · rfl

theorem initialBytes_key (key : k < mapDef.keySize.toNat) : (initialBytes mapDef data)[k]?.getD 0 = 0 := by
  rw [initialBytes, append_assoc, getElem?_append_left (by simpa using key), getElem?_replicate, if_pos key]
  rfl

theorem applyInitial_fresh (entries : 0 < map.mapDef.maxEntries.toNat)
    (usable : data = [] ∨ data.length = map.mapDef.valueSize.toNat) (small : map.storageBytes < 2 ^ 64)
    (bound : k < map.storageBytes) (cleared : mem (map.ptr + BitVec.ofNat 64 k) = 0) :
    applyInitial mem (map, data) (map.ptr + BitVec.ofNat 64 k) = (initialBytes map.mapDef data)[k]?.getD 0 := by
  unfold applyInitial
  split
  · rename_i empty
    obtain rfl : data = [] := empty
    rw [cleared, initialBytes_nil]
  · rename_i present
    have length : data.length = map.mapDef.valueSize.toNat := usable.resolve_left present
    rw [if_pos length, update_first entries length]
    change mem.write _ data _ = _
    rw [Mem.write_apply (by omega), cleared]
    by_cases key : k < map.mapDef.keySize.toNat
    · rw [initialBytes_key key, getElem?_eq_none (by bv_omega)]
      rfl
    · have offset : (map.ptr + BitVec.ofNat 64 k - (map.ptr + BitVec.ofNat 64 map.mapDef.keySize.toNat)).toNat =
          k - map.mapDef.keySize.toNat := by bv_omega
      rw [initialBytes_value (by omega), offset]

def usable (mapDef : MapDef) (data : Bytes) : Bytes := if data.length = mapDef.valueSize.toNat then data else []

theorem usable_cases (mapDef : MapDef) (data : Bytes) :
    usable mapDef data = [] ∨ (usable mapDef data).length = mapDef.valueSize.toNat := by
  unfold usable
  split
  · rename_i length
    exact .inr length
  · exact .inl rfl

theorem usable_eq (right : data = [] ∨ data.length = mapDef.valueSize.toNat) : usable mapDef data = data := by
  unfold usable
  split
  · rfl
  · rename_i wrong
    exact (right.resolve_right wrong).symm

theorem applyInitial_usable (mem : Mem) (map : MapInstance) (data : Bytes) :
    applyInitial mem (map, data) = applyInitial mem (map, usable map.mapDef data) := by
  unfold usable
  split
  · rfl
  · rename_i wrong
    simp [applyInitial, wrong]

theorem applyInitials_outside {entries : List (MapInstance × Bytes)}
    (outside : ∀ entry ∈ entries, ¬entry.1.Holds a) : entries.foldl applyInitial mem a = mem a := by
  induction entries generalizing mem with
  | nil => rfl
  | cons entry entries ih =>
    rw [foldl_cons, ih fun other member => outside other (mem_cons_of_mem _ member)]
    exact applyInitial_outside (outside entry mem_cons_self)

variable {maps : List MapInstance}

theorem applyInitials_own {datas : List Bytes}
    (apart : maps.Pairwise fun map other => map.Disjoint other ∧ other.Disjoint map) {i : Nat}
    (isMap : maps[i]? = some map) (isData : datas[i]? = some data) (holds : map.Holds a) (mem : Mem) :
    ∃ before : Mem, before a = mem a ∧ (maps.zip datas).foldl applyInitial mem a = applyInitial before (map, data) a := by
  induction maps generalizing i datas mem with
  | nil => simp at isMap
  | cons first maps ih =>
    obtain ⟨fromFirst, rest⟩ := pairwise_cons.mp apart
    cases datas with
    | nil => simp at isData
    | cons firstData datas =>
      rw [zip_cons_cons, foldl_cons]
      cases i with
      | zero =>
        obtain rfl : first = map := by simpa using isMap
        obtain rfl : firstData = data := by simpa using isData
        refine ⟨mem, rfl, applyInitials_outside fun entry member => ?_⟩
        exact (fromFirst entry.1 (of_mem_zip member).1).1 a holds
      | succ i =>
        have later : map ∈ maps := mem_of_getElem? (by simpa using isMap)
        have unaffected : applyInitial mem (first, firstData) a = mem a :=
          applyInitial_outside ((fromFirst map later).2 a holds)
        obtain ⟨before, same, own⟩ := ih rest (by simpa using isMap) (by simpa using isData)
          (applyInitial mem (first, firstData))
        exact ⟨before, same.trans unaffected, own⟩

theorem clearMaps_stays (clear : mem a = 0) : clearMaps mem maps a = 0 := by
  induction maps generalizing mem with
  | nil => exact clear
  | cons map maps ih =>
    apply ih
    simp only [Mem.zero]
    split
    · rfl
    · exact clear

theorem clearMaps_clears (member : map ∈ maps) (holds : map.Holds a) : clearMaps mem maps a = 0 := by
  induction maps generalizing mem with
  | nil => cases member
  | cons first maps ih =>
    rcases mem_cons.mp member with rfl | later
    · have clear : mem.zero map.ptr map.storageBytes a = 0 := if_pos holds
      change clearMaps (mem.zero map.ptr map.storageBytes) maps a = 0
      exact clearMaps_stays clear
    · exact ih later

/-! ## Allocation -/

theorem validateMapDef_ok (valid : validateMapDef mapDef = .ok ()) :
    mapDef.keySize = arrayMapKeySize ∧ 0 < mapDef.maxEntries.toNat := by
  unfold validateMapDef at valid
  split at valid
  · cases valid
  split at valid
  · cases valid
  rename_i keySize
  split at valid
  · cases valid
  exact ⟨not_not.mp keySize, by bv_omega⟩

structure Allocates (budgetBytes : Nat) (mapDefs : List MapDef) : Prop where
  valid : validateMapDefs mapDefs = .ok ()
  budget : (mapDefs.map totalSize).sum ≤ budgetBytes
  backing : (mapDefs.map totalSize).sum ≤ mapBudget

theorem Allocates.valid_def {budgetBytes : Nat} (allocates : Allocates budgetBytes mapDefs) (member : mapDef ∈ mapDefs) :
    mapDef.keySize = arrayMapKeySize ∧ 0 < mapDef.maxEntries.toNat := by
  have valid := allocates.valid
  unfold validateMapDefs at valid
  split at valid
  · cases valid
  · obtain ⟨_, each, _⟩ := bind_eq_ok.mp valid
    exact validateMapDef_ok (forM_ok each member)

theorem requiredBytes_le (within : ¬requiredBytes mapDefs > mapBudget) :
    requiredBytes mapDefs = (mapDefs.map totalSize).sum := by
  simp only [requiredBytes, requiredBytesChecked, mapBudget] at *
  split
  · rfl
  · rename_i overflows
    rw [if_neg overflows] at within
    exact (within (by decide)).elim

theorem Allocates.required {budgetBytes : Nat} (allocates : Allocates budgetBytes mapDefs) :
    requiredBytesChecked mapDefs = some (mapDefs.map totalSize).sum := by
  have small := allocates.backing
  simp only [mapBudget] at small
  refine if_pos ⟨by omega, fun mapDef member => ?_⟩
  have entry := entrySize_le_total (allocates.valid_def member).2
  have total := le_sum_of_mem (mem_map_of_mem (f := totalSize) member)
  omega

theorem allocate_eq_ok {backing : BitVec 64} {storage : MapStorage} {result : MapStorage × Mem} :
    allocate backing mapDefs (storage, mem) = (.ok (), result) ↔
      Allocates storage.budgetBytes mapDefs ∧
        result = ({ storage with maps := layOut backing mapDefs }, clearMaps mem (layOut backing mapDefs)) := by
  unfold allocate
  constructor
  · intro ok
    obtain ⟨_, _, checked, ok⟩ := Program.bind_ok ok
    obtain ⟨_, _, read, ok⟩ := Program.bind_ok ok
    rw [Program.ofExcept_run, Prod.mk.injEq] at checked
    obtain ⟨valid, rfl⟩ := checked
    cases read
    dsimp only at ok
    split at ok
    · cases ok
    rename_i withinBudget
    split at ok
    · cases ok
    rename_i withinBacking
    rw [requiredBytes_le withinBacking] at withinBudget withinBacking
    cases ok
    exact ⟨⟨valid, not_lt.mp withinBudget, not_lt.mp withinBacking⟩, rfl⟩
  · rintro ⟨allocates, rfl⟩
    have required : requiredBytes mapDefs = (mapDefs.map totalSize).sum := by rw [requiredBytes, allocates.required]; rfl
    simp only [Program.bind_run, Program.ofExcept_run, Program.read_run, allocates.valid, required,
      if_neg (not_lt.mpr allocates.budget), if_neg (not_lt.mpr allocates.backing), Program.update_run]

-- Every check comes before the first write.
theorem allocate_failed {backing : BitVec 64} {s s' : MapStorage × Mem} {e : NodeError}
    (failed : allocate backing mapDefs s = (.error e, s')) : s' = s := by
  simp only [allocate, Program.bind_run, Program.ofExcept_run, Program.read_run] at failed
  cases valid : validateMapDefs mapDefs with
  | error e =>
    rw [valid] at failed
    exact (congrArg Prod.snd failed).symm
  | ok _ =>
    simp only [valid] at failed
    split_ifs at failed
    all_goals cases failed
    all_goals rfl

theorem validateMapDefs_length (valid : validateMapDefs mapDefs = .ok ()) : mapDefs.length ≤ maxMaps := by
  unfold validateMapDefs at valid
  split at valid
  · cases valid
  · omega

theorem fromRtc_eq {backing : BitVec 64} {budgetBytes : Nat} {layout : List MapDef} (some : layout ≠ [])
    (allocates : Allocates budgetBytes layout) :
    fromRtc backing budgetBytes layout = ⟨budgetBytes, layOut backing layout⟩ := by
  have length := validateMapDefs_length allocates.valid
  have nonempty : layout.length ≠ 0 := fun none => some (length_eq_zero_iff.mp none)
  simp only [fromRtc, allocates.required]
  rw [if_neg (by omega), if_neg (by have := allocates.budget; have := allocates.backing; omega), allocates.valid]

variable (backing : BitVec 64) (budgetBytes : Nat) (layout : List MapDef)

theorem fromRtc_cases :
    fromRtc backing budgetBytes layout = ⟨budgetBytes, []⟩ ∨ layout ≠ [] ∧ Allocates budgetBytes layout := by
  unfold fromRtc
  split
  · exact .inl rfl
  rename_i length
  split
  · exact .inl rfl
  rename_i total required
  split
  · exact .inl rfl
  split
  · exact .inl rfl
  rename_i valid
  have sum : (layout.map totalSize).sum = total := by
    simp only [requiredBytesChecked] at required
    split at required
    · exact Option.some.inj required
    · cases required
  refine .inr ⟨?_, valid, by omega, by omega⟩
  rintro rfl
  exact length (.inl rfl)

theorem fromRtc_budget : (fromRtc backing budgetBytes layout).budgetBytes = budgetBytes := by
  rcases fromRtc_cases backing budgetBytes layout with empty | ⟨some, allocates⟩
  · rw [empty]
  · rw [fromRtc_eq some allocates]

@[simp] theorem mapDefs_layOut (mapDefs : List MapDef) :
    (⟨budgetBytes, layOut backing mapDefs⟩ : MapStorage).mapDefs = mapDefs := by
  unfold MapStorage.mapDefs
  induction mapDefs generalizing backing with
  | nil => rfl
  | cons mapDef mapDefs ih => simp [layOut, ih]

theorem fromRtc_idem : fromRtc backing (fromRtc backing budgetBytes layout).budgetBytes
      (fromRtc backing budgetBytes layout).mapDefs = fromRtc backing budgetBytes layout := by
  rcases fromRtc_cases backing budgetBytes layout with empty | ⟨nonempty, allocates⟩
  · rw [empty]
    rfl
  · rw [fromRtc_eq nonempty allocates, mapDefs_layOut]
    exact fromRtc_eq nonempty allocates

section
variable {space : AddressSpace} {storage allocated : MapStorage} {cleared : Mem}
    (ok : allocate space.mapBacking mapDefs (storage, mem) = (.ok (), allocated, cleared))
include ok

theorem allocate_fits : space.mapBacking.toNat + (mapDefs.map totalSize).sum < 2 ^ 64 := by
  have backing := (allocate_eq_ok.mp ok).1.backing
  have := space.backing_fits
  omega

theorem allocated_within (member : map ∈ allocated.maps) :
    space.mapBacking.toNat ≤ map.ptr.toNat ∧ map.ptr.toNat + map.storageBytes ≤ space.mapBacking.toNat + mapBudget := by
  have fits := allocate_fits ok
  obtain ⟨allocates, result⟩ := allocate_eq_ok.mp ok
  cases result
  have backing := allocates.backing
  have bounds := layOut_within fits member
  omega

theorem allocated_entries (member : map ∈ allocated.maps) :
    map.mapDef.keySize = arrayMapKeySize ∧ 0 < map.mapDef.maxEntries.toNat := by
  obtain ⟨allocates, result⟩ := allocate_eq_ok.mp ok
  cases result
  exact allocates.valid_def (layOut_mapDef member)

theorem allocated_fresh {datas : List Bytes} {i : Nat}
    (isMap : allocated.maps[i]? = some map) (isData : datas[i]? = some data) :
    map.data (allocated.applyInitialData datas cleared) = initialBytes map.mapDef (usable map.mapDef data) := by
  have member : map ∈ allocated.maps := mem_of_getElem? isMap
  have bounds := allocated_within ok member
  have entries := (allocated_entries ok member).2
  have apart := layOut_disjoint (allocate_fits ok)
  obtain ⟨-, result⟩ := allocate_eq_ok.mp ok
  cases result
  have length : (initialBytes map.mapDef (usable map.mapDef data)).length = map.storageBytes := by
    have := entrySize_le_total entries
    simp only [initialBytes, storageBytes, length_append, length_replicate, entrySize] at *
    rcases usable_cases map.mapDef data with none | sized
    · rw [none, length_nil]
      omega
    · omega
  unfold MapInstance.data
  rw [← length]
  apply Mem.slice_eq
  intro k bound
  rw [length] at bound
  have fits := space.backing_fits
  have holds : map.Holds (map.ptr + BitVec.ofNat 64 k) := by
    simp only [Holds]
    bv_omega
  obtain ⟨before, same, own⟩ := applyInitials_own apart isMap isData holds (clearMaps mem (layOut space.mapBacking mapDefs))
  rw [applyInitial_usable] at own
  exact own.trans (applyInitial_fresh entries (usable_cases _ _) (by omega) bound
    (same.trans (clearMaps_clears member holds)))

end

/-! ## Any sequence of calls -/

inductive MapCall where
  | allocate (mapDefs : List MapDef)
  | applyInitialData (initialData : List Bytes)
  | update (index key : Nat) (value : Bytes)
  | clearAll

-- `get_mut` finds no map at an index beyond the last one.
def MapCall.run (backing : BitVec 64) : MapCall → Program (MapStorage × Mem) NodeError Unit
  | .allocate mapDefs => MapStorage.allocate backing mapDefs
  | .applyInitialData initialData => Program.update fun s => (s.1, s.1.applyInitialData initialData s.2)
  | .update index key value => fun s =>
    match s.1.maps[index]? with
    | none => (.ok (), s)
    | some map =>
      let (result, mem) := map.update key value s.2
      (result, s.1, mem)
  | .clearAll => Program.update fun s => (s.1, s.1.clearAll s.2)

def MapCall.step (backing : BitVec 64) (s : MapStorage × Mem) (call : MapCall) : MapStorage × Mem := (call.run backing s).2

-- `make_map_data`, `copy_from_slice` and `fill` cannot fail.
theorem MapCall.run_failed {backing : BitVec 64} {s : MapStorage × Mem} {call : MapCall} {e : NodeError}
    (failed : (call.run backing s).1 = .error e) : (call.run backing s).2 = s := by
  cases call with
  | allocate mapDefs => exact allocate_failed (Prod.ext failed rfl)
  | applyInitialData | clearAll => cases failed
  | update index key value =>
    simp only [MapCall.run] at failed ⊢
    split at failed
    · cases failed
    · exact Prod.ext rfl (update_failed (Prod.ext failed rfl))

def Laid (backing : BitVec 64) (storage : MapStorage) : Prop :=
  ∃ mapDefs, Allocates storage.budgetBytes mapDefs ∧ storage.maps = layOut backing mapDefs

theorem Laid.fromRtc : Laid backing (.fromRtc backing budgetBytes layout) := by
  rcases fromRtc_cases backing budgetBytes layout with empty | ⟨some, allocates⟩
  · rw [empty]
    exact ⟨[], ⟨rfl, Nat.zero_le _, Nat.zero_le _⟩, rfl⟩
  · rw [fromRtc_eq some allocates]
    exact ⟨layout, allocates, rfl⟩

theorem Laid.step {backing : BitVec 64} {s : MapStorage × Mem} (laid : Laid backing s.1) (call : MapCall) :
    Laid backing (call.step backing s).1 ∧ (call.step backing s).1.budgetBytes = s.1.budgetBytes := by
  cases call with
  | allocate mapDefs =>
    simp only [MapCall.step, MapCall.run]
    cases run : MapStorage.allocate backing mapDefs s with
    | mk result s' =>
      cases result with
      | error e =>
        obtain rfl := allocate_failed run
        exact ⟨laid, rfl⟩
      | ok _ =>
        obtain ⟨allocates, rfl⟩ := allocate_eq_ok.mp run
        exact ⟨⟨mapDefs, allocates, rfl⟩, rfl⟩
  | applyInitialData | clearAll => exact ⟨laid, rfl⟩
  | update index key value =>
    simp only [MapCall.step, MapCall.run]
    split
    · exact ⟨laid, rfl⟩
    · exact ⟨laid, rfl⟩

structure Isolated (backing : BitVec 64) (budgetBytes : Nat) (s : MapStorage × Mem) : Prop where
  disjoint : s.1.maps.Pairwise MapInstance.Disjoint
  budget : (s.1.maps.map storageBytes).sum ≤ budgetBytes
  accepted : ∀ map ∈ s.1.maps, ∀ key value, (map.update key value s.2).1 = .ok () ↔
    key < map.mapDef.maxEntries.toNat ∧ value.length = map.mapDef.valueSize.toNat
  written : ∀ map ∈ s.1.maps, ∀ key value mem', map.update key value s.2 = (.ok (), mem') →
    ∃ addr, map.lookup key = some addr ∧ addr = map.ptr + BitVec.ofNat 64 (map.valueOffset key) ∧
      mem'.slice addr map.mapDef.valueSize.toNat = value ∧
      ∀ a, ¬(a - addr).toNat < map.mapDef.valueSize.toNat → mem' a = s.2 a
  failed : ∀ (call : MapCall) e, (call.run backing s).1 = .error e → (call.run backing s).2 = s

include updated in
theorem update_stored :
    mem'.slice (map.ptr + BitVec.ofNat 64 (map.valueOffset key)) map.mapDef.valueSize.toNat = value := by
  obtain ⟨-, length, rfl⟩ := update_eq_ok.mp updated
  rw [← length]
  refine Mem.slice_eq fun k bound => ?_
  have index (addr : BitVec 64) : (addr + BitVec.ofNat 64 k - addr).toNat = k := by bv_omega
  rw [Mem.write_apply (by omega), index, getElem?_eq_getElem bound]
  rfl

theorem map_storage_isolated (space : AddressSpace) (budgetBytes : Nat) (layout : List MapDef) (mem : Mem)
    (calls : List MapCall) : Isolated space.mapBacking budgetBytes
      (calls.foldl (MapCall.step space.mapBacking) (.fromRtc space.mapBacking budgetBytes layout, mem)) := by
  have inv := foldlRecOn (motive := fun s => Laid space.mapBacking s.1 ∧ s.1.budgetBytes = budgetBytes) calls
    (MapCall.step space.mapBacking) (b := (.fromRtc space.mapBacking budgetBytes layout, mem))
    ⟨Laid.fromRtc .., fromRtc_budget ..⟩ fun s inv call _ => (inv.1.step call).imp_right (·.trans inv.2)
  obtain ⟨⟨mapDefs, allocates, maps⟩, kept⟩ := inv
  have sizes := congrArg (map totalSize) (mapDefs_layOut space.mapBacking budgetBytes mapDefs)
  rw [MapStorage.mapDefs, map_map] at sizes
  have fits := space.backing_fits
  have backing := allocates.backing
  constructor
  · rw [maps]
    exact (layOut_disjoint (by omega)).imp And.left
  · rw [maps, ← kept]
    exact (congrArg sum sizes).trans_le allocates.budget
  · intro map member key value
    constructor
    · intro updated
      obtain ⟨inRange, length, -⟩ := update_eq_ok.mp (Program.run_of_ok updated)
      exact ⟨inRange, length⟩
    · rintro ⟨inRange, length⟩
      exact congrArg Prod.fst (update_eq_ok.mpr ⟨inRange, length, rfl⟩)
  · intro map member key value mem' updated
    have found := lookup_eq_some.mpr ⟨(update_eq_ok.mp updated).1, rfl⟩
    refine ⟨_, found, rfl, update_stored updated, fun a apart => update_apart updated fun addr other => ?_⟩
    obtain rfl := Option.some.inj (found.symm.trans other)
    exact apart
  · exact fun call e failed => call.run_failed failed

end Sonde.Node
