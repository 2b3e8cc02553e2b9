import Sonde.Protocol.Frame

namespace Sonde.Protocol
open Lib List

def imgKeyBytecode : Nat := 1
def imgKeyMaps : Nat := 2
def mapKeyType : Nat := 1
def mapKeyKeySize : Nat := 2
def mapKeyValueSize : Nat := 3
def mapKeyMaxEntries : Nat := 4
def mapKeyInitialData : Nat := 5
def mapKeyReadonly : Nat := 6

structure MapDef where
  mapType : BitVec 32
  keySize : BitVec 32
  valueSize : BitVec 32
  maxEntries : BitVec 32
  deriving DecidableEq, Repr

structure ProgramImage where
  bytecode : Bytes
  maps : List MapDef
  mapInitialData : List Bytes
  mapReadonly : List Bool
  deriving DecidableEq, Repr

open ProgramImage

def asU32 (value : Cbor) : Option (BitVec 32) := ((asU64 value).filter (· < 2 ^ 32)).map (BitVec.ofNat 32)

def asBool : Cbor → Option Bool
  | .bool b => some b
  | _ => none

def orInvalid {α : Type} (key : Nat) (value : Option α) : Except DecodeError α :=
  value.elim (.error (.invalidFieldType key)) .ok

def orMissing {α : Type} (key : Nat) (value : Option α) : Except DecodeError α :=
  value.elim (.error (.missingField key)) .ok

-- The local variables of the loop over one map definition.
structure MapFields where
  mapType : Option (BitVec 32) := none
  keySize : Option (BitVec 32) := none
  valueSize : Option (BitVec 32) := none
  maxEntries : Option (BitVec 32) := none
  initialData : Bytes := []
  readonly : Bool := false

def readMapField (fields : MapFields) (entry : Cbor × Cbor) : Except DecodeError MapFields :=
  match asU64 entry.1 with
  | some 1 => .ok { fields with mapType := asU32 entry.2 }
  | some 2 => .ok { fields with keySize := asU32 entry.2 }
  | some 3 => .ok { fields with valueSize := asU32 entry.2 }
  | some 4 => .ok { fields with maxEntries := asU32 entry.2 }
  | some 5 => do
    let data ← orInvalid mapKeyInitialData (asBytes entry.2)
    .ok { fields with initialData := data }
  | some 6 => do
    let readonly ← orInvalid mapKeyReadonly (asBool entry.2)
    .ok { fields with readonly := readonly }
  | _ => .ok fields

-- The local variables of the loop over the image's map.
structure ImageFields where
  bytecode : Option Bytes := none
  maps : List MapDef := []
  mapInitialData : List Bytes := []
  mapReadonly : List Bool := []

def readMapDef (fields : ImageFields) (item : Cbor) : Except DecodeError ImageFields :=
  match item with
  | .map entries => do
    let map ← entries.foldlM readMapField {}
    let mapType ← orMissing mapKeyType map.mapType
    let keySize ← orMissing mapKeyKeySize map.keySize
    let valueSize ← orMissing mapKeyValueSize map.valueSize
    let maxEntries ← orMissing mapKeyMaxEntries map.maxEntries
    .ok { fields with
      maps := fields.maps ++ [⟨mapType, keySize, valueSize, maxEntries⟩]
      mapInitialData := fields.mapInitialData ++ [map.initialData]
      mapReadonly := fields.mapReadonly ++ [map.readonly] }
  | _ => .error (.invalidFieldType imgKeyMaps)

def readImageField (fields : ImageFields) (entry : Cbor × Cbor) : Except DecodeError ImageFields :=
  match asU64 entry.1 with
  | some 1 => do
    let bytecode ← orInvalid imgKeyBytecode (asBytes entry.2)
    .ok { fields with bytecode := some bytecode }
  | some 2 =>
    match entry.2 with
    | .array items => items.foldlM readMapDef fields
    | _ => .error (.invalidFieldType imgKeyMaps)
  | _ => .ok fields

def ProgramImage.decode (reader : Cbor.Reader) (cbor : Bytes) : Except DecodeError ProgramImage :=
  match reader.fromReader cbor with
  | .error e => .error (.cborError e)
  | .ok (.map entries) => do
    let fields ← entries.foldlM readImageField {}
    let bytecode ← orMissing imgKeyBytecode fields.bytecode
    .ok ⟨bytecode, fields.maps, fields.mapInitialData, fields.mapReadonly⟩
  | .ok _ => .error (.cborError "expected CBOR map")

def mapEntries (map : MapDef) (initialData : Option Bytes) (readonly : Bool) : List (Cbor × Cbor) :=
  [(.unsigned mapKeyType, .unsigned map.mapType.toNat), (.unsigned mapKeyKeySize, .unsigned map.keySize.toNat),
    (.unsigned mapKeyValueSize, .unsigned map.valueSize.toNat), (.unsigned mapKeyMaxEntries, .unsigned map.maxEntries.toNat)] ++
  ((initialData.filter (· ≠ [])).toList.map fun data => (.unsigned mapKeyInitialData, .bytes data)) ++
  if readonly then [(.unsigned mapKeyReadonly, .bool true)] else []

def ProgramImage.mapValues (image : ProgramImage) : List Cbor :=
  image.maps.mapIdx fun i map => .map (mapEntries map image.mapInitialData[i]? (image.mapReadonly[i]?.getD false))

def ProgramImage.encodeDeterministic (image : ProgramImage) : Except EncodeError Bytes :=
  let maps := image.maps.length
  let initialData := image.mapInitialData.length
  let readonly := image.mapReadonly.length
  if initialData ≠ maps then .error (.cborError s!"map_initial_data length ({initialData}) != maps length ({maps})")
  else if readonly ≠ maps then .error (.cborError s!"map_readonly length ({readonly}) != maps length ({maps})")
  else .ok (Cbor.map [(.unsigned imgKeyBytecode, .bytes image.bytecode), (.unsigned imgKeyMaps, .array image.mapValues)]).encode

def ImageFields.Aligned (fields : ImageFields) : Prop :=
  fields.mapInitialData.length = fields.maps.length ∧ fields.mapReadonly.length = fields.maps.length

theorem readMapDef_aligned {fields fields' : ImageFields} {item : Cbor} (aligned : fields.Aligned)
    (ok : readMapDef fields item = .ok fields') : fields'.Aligned := by
  unfold readMapDef at ok
  split at ok
  · simp only [bind_eq_ok] at ok
    obtain ⟨map, -, mapType, -, keySize, -, valueSize, -, maxEntries, -, ok⟩ := ok
    cases ok
    simpa [ImageFields.Aligned] using aligned
  · cases ok

theorem readImageField_aligned {fields fields' : ImageFields} {entry : Cbor × Cbor} (aligned : fields.Aligned)
    (ok : readImageField fields entry = .ok fields') : fields'.Aligned := by
  unfold readImageField at ok
  split at ok
  · obtain ⟨bytecode, -, ok⟩ := bind_eq_ok.mp ok
    cases ok
    exact aligned
  · split at ok
    · exact foldlM_keeps readMapDef_aligned aligned ok
    · cases ok
  · cases ok
    exact aligned

theorem decode_aligned {reader : Cbor.Reader} {cbor : Bytes} {image : ProgramImage}
    (decoded : decode reader cbor = .ok image) :
    image.mapInitialData.length = image.maps.length ∧ image.mapReadonly.length = image.maps.length := by
  unfold decode at decoded
  split at decoded
  · cases decoded
  · simp only [bind_eq_ok] at decoded
    obtain ⟨fields, read, bytecode, -, decoded⟩ := decoded
    cases decoded
    have none : ImageFields.Aligned {} := ⟨rfl, rfl⟩
    exact foldlM_keeps readImageField_aligned none read
  · cases decoded

/-! ## The round trip -/

structure ProgramImage.Valid (image : ProgramImage) : Prop where
  initialData : image.mapInitialData.length = image.maps.length
  readonly : image.mapReadonly.length = image.maps.length
  bytecode : image.bytecode.length < 2 ^ 64
  count : image.maps.length < 2 ^ 64
  data : ∀ data ∈ image.mapInitialData, data.length < 2 ^ 64

variable {image : ProgramImage}

theorem ProgramImage.Valid.encodes (valid : image.Valid) : image.encodeDeterministic =
    .ok (Cbor.map [(.unsigned imgKeyBytecode, .bytes image.bytecode), (.unsigned imgKeyMaps, .array image.mapValues)]).encode := by
  simp only [encodeDeterministic]
  rw [if_neg (not_not.mpr valid.initialData), if_neg (not_not.mpr valid.readonly)]

theorem mapEntries_fit (map : MapDef) {initialData : Option Bytes} (readonly : Bool)
    (short : ∀ data ∈ initialData, data.length < 2 ^ 64) : (Cbor.map (mapEntries map initialData readonly)).FitsIn 254 := by
  have word (n : BitVec 32) : (Cbor.unsigned n.toNat).FitsIn 253 := n.isLt.trans (by decide)
  have key {n : Nat} (small : n < 7) : (Cbor.unsigned n).FitsIn 253 := small.trans (by decide)
  refine ⟨by decide, ?_, fitEntries_of_forall fun entry member => ?_⟩
  · unfold mapEntries
    cases initialData.filter (· ≠ []) <;> cases readonly <;> simp
  · simp only [mapEntries, mem_append, mem_cons, not_mem_nil, or_false, mem_map, Option.mem_toList] at member
    rcases member with ((rfl | rfl | rfl | rfl) | ⟨data, present, rfl⟩) | readonly
    · exact ⟨key (by decide), word _⟩
    · exact ⟨key (by decide), word _⟩
    · exact ⟨key (by decide), word _⟩
    · exact ⟨key (by decide), word _⟩
    · exact ⟨key (by decide), short data (Option.filter_eq_some_iff.mp present).1⟩
    · split at readonly
      · cases mem_singleton.mp readonly
        exact ⟨key (by decide), trivial⟩
      · cases readonly

theorem asU32_word (n : BitVec 32) : asU32 (.unsigned n.toNat) = some n := by
  rw [asU32, asU64_filter n.isLt (by decide), Option.map_some, BitVec.ofNat_toNat, BitVec.setWidth_eq]

theorem readMapDef_entries (fields : ImageFields) (map : MapDef) (initialData : Bytes) (readonly : Bool) :
    readMapDef fields (.map (mapEntries map (some initialData) readonly)) = .ok { fields with
      maps := fields.maps ++ [map]
      mapInitialData := fields.mapInitialData ++ [initialData]
      mapReadonly := fields.mapReadonly ++ [readonly] } := by
  have read : (mapEntries map (some initialData) readonly).foldlM readMapField {} =
      .ok ⟨some map.mapType, some map.keySize, some map.valueSize, some map.maxEntries, initialData, readonly⟩ := by
    have words (a b c d : Cbor) (rest : List (Cbor × Cbor)) : foldlM readMapField {} ([(.unsigned mapKeyType, a),
        (.unsigned mapKeyKeySize, b), (.unsigned mapKeyValueSize, c), (.unsigned mapKeyMaxEntries, d)] ++ rest) =
        rest.foldlM readMapField ⟨asU32 a, asU32 b, asU32 c, asU32 d, [], false⟩ := rfl
    rw [mapEntries, append_assoc, words, asU32_word, asU32_word, asU32_word, asU32_word]
    cases initialData <;> cases readonly <;> rfl
  exact bind_eq_ok.mpr ⟨_, read, rfl⟩

abbrev imageRows (image : ProgramImage) : List (MapDef × Bytes × Bool) :=
  image.maps.zip (image.mapInitialData.zip image.mapReadonly)

theorem mapValues_rows (valid : image.Valid) :
    image.mapValues = (imageRows image).map fun (map, initialData, readonly) => .map (mapEntries map (some initialData) readonly) := by
  refine ext_getElem (by simp [mapValues, valid.initialData, valid.readonly]) fun i inside _ => ?_
  have bound : i < image.maps.length := by simpa [mapValues] using inside
  have data : i < image.mapInitialData.length := valid.initialData ▸ bound
  have flag : i < image.mapReadonly.length := valid.readonly ▸ bound
  simp [mapValues, getElem?_eq_getElem data, getElem?_eq_getElem flag]

theorem readMapDefs_rows (rows : List (MapDef × Bytes × Bool)) (fields : ImageFields) :
    (rows.map fun (map, initialData, readonly) => Cbor.map (mapEntries map (some initialData) readonly)).foldlM readMapDef fields =
      .ok { fields with
        maps := fields.maps ++ rows.map (·.1)
        mapInitialData := fields.mapInitialData ++ rows.map (·.2.1)
        mapReadonly := fields.mapReadonly ++ rows.map (·.2.2) } := by
  induction rows generalizing fields with
  | nil => simp [pure, Except.pure]
  | cons row rows ih =>
    rw [map_cons, foldlM_cons, readMapDef_entries]
    refine (ih _).trans ?_
    simp

theorem mapValues_fit (valid : image.Valid) : (Cbor.array image.mapValues).Fits := by
  refine ⟨by decide, by simpa [mapValues] using valid.count, ?_⟩
  rw [mapValues_rows valid]
  have short : ∀ row ∈ imageRows image, row.2.1.length < 2 ^ 64 := fun row member =>
    valid.data _ (of_mem_zip (of_mem_zip member).2).1
  generalize imageRows image = rows at short
  induction rows with
  | nil => exact trivial
  | cons row rows ih =>
    refine ⟨mapEntries_fit row.1 row.2.2 ?_, ih fun r member => short r (mem_cons_of_mem _ member)⟩
    rintro data ⟨⟩
    exact short row mem_cons_self

theorem ProgramImage.Valid.decodes (valid : image.Valid) (reader : Cbor.Reader) : decode reader
    (Cbor.map [(.unsigned imgKeyBytecode, .bytes image.bytecode), (.unsigned imgKeyMaps, .array image.mapValues)]).encode =
      .ok image := by
  have fits : (Cbor.map [(.unsigned imgKeyBytecode, .bytes image.bytecode),
      (.unsigned imgKeyMaps, .array image.mapValues)]).FitsIn Cbor.recursionLimit :=
    ⟨by decide, show 2 < 2 ^ 64 by decide, Cbor.fits_entry (by decide) valid.bytecode
      (Cbor.fits_entry (by decide) (mapValues_fit valid) trivial)⟩
  unfold decode
  rw [reader.fromReader_encode _ fits]
  refine bind_eq_ok.mpr ⟨⟨some image.bytecode, image.maps, image.mapInitialData, image.mapReadonly⟩, ?_, rfl⟩
  refine bind_eq_ok.mpr ⟨{ bytecode := some image.bytecode }, rfl, bind_eq_ok.mpr ⟨_, ?_, rfl⟩⟩
  change image.mapValues.foldlM readMapDef _ = _
  rw [mapValues_rows valid, readMapDefs_rows]
  have maps : (imageRows image).map (·.1) = image.maps := map_fst_zip (by simp [valid.initialData, valid.readonly])
  have rest : (imageRows image).map (·.2) = image.mapInitialData.zip image.mapReadonly :=
    map_snd_zip (by simp [valid.initialData, valid.readonly])
  have initialData : (imageRows image).map (·.2.1) = image.mapInitialData :=
    (map_map.symm.trans (congrArg (map Prod.fst) rest)).trans (map_fst_zip (valid.initialData.trans valid.readonly.symm).le)
  have readonly : (imageRows image).map (·.2.2) = image.mapReadonly :=
    (map_map.symm.trans (congrArg (map Prod.snd) rest)).trans (map_snd_zip (valid.readonly.trans valid.initialData.symm).le)
  rw [maps, initialData, readonly]
  rfl

theorem program_image_codec (reader : Cbor.Reader) (provider : Provider) (image other : ProgramImage) (valid : image.Valid)
    (valid' : other.Valid) : ∃ cbor cbor', image.encodeDeterministic = .ok cbor ∧ other.encodeDeterministic = .ok cbor' ∧
      ProgramImage.decode reader cbor = .ok image ∧ (cbor = cbor' → image = other) ∧
      ((provider.hash cbor = provider.hash cbor' → cbor = cbor') → provider.hash cbor = provider.hash cbor' → image = other) := by
  have same (equal : Cbor.encode _ = Cbor.encode _) : image = other :=
    Except.ok.inj ((valid.decodes reader).symm.trans ((congrArg _ equal).trans (valid'.decodes reader)))
  exact ⟨_, _, valid.encodes, valid'.encodes, valid.decodes reader, same, fun unique equal => same (unique equal)⟩

def globalsImage : ProgramImage := ⟨[0x95], [⟨1, 4, 1, 1⟩, ⟨1, 4, 1, 1⟩], [[], [7]], [false, true]⟩

theorem globalsImage_valid : globalsImage.Valid := ⟨rfl, rfl, by decide, by decide, by decide⟩

theorem program_image_codec_globals : ∃ cbor, globalsImage.encodeDeterministic = .ok cbor ∧
    ProgramImage.decode .definite cbor = .ok globalsImage := by
  obtain ⟨cbor, _, encodes, -, decodes, -⟩ := program_image_codec .definite plainProvider globalsImage globalsImage
    globalsImage_valid globalsImage_valid
  exact ⟨cbor, encodes, decodes⟩

end Sonde.Protocol
