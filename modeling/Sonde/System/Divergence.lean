import Sonde.Azure.Handler
import Sonde.Gateway.DesiredState
import Sonde.Lib.Run
import Sonde.System.ConnectorCodec

/-!
# Detecting that a node diverges

The cloud handler compares the latest report of a node with its desired row and sends the row if they differ; the gateway
reads it back.
-/

namespace Sonde.System
open Lib Protocol Gateway Azure List

/-! ## Reading a desired state -/

section
variable (reader : Cbor.Reader) {row : DesiredStateRow} {program : Option ProgramImageRow}

theorem engine_required_found {α : Type} {view : Cbor → Option α} {kind field : String} {map : Engine.DesiredState}
    {key : Nat} {v : Cbor} {a : α} (found : Engine.mapGet map key = some v) (viewed : view v = some a) :
    Engine.required view kind map key field = .ok a := by
  unfold Engine.required
  rw [found]
  dsimp only
  rw [viewed]

theorem engine_optionalU32Field_found {map : Engine.DesiredState} {key n : Nat} {field : String} {v : Cbor}
    (found : Engine.mapGet map key = some v) (viewed : asNatBelow (2 ^ 32) v = some n) :
    Engine.optionalU32Field map key field = .ok (some n) := by
  unfold Engine.optionalU32Field
  rw [found]
  split
  · rename_i same
    cases same
    cases viewed
  · rename_i same
    cases same
  · rename_i value _ _ same
    obtain rfl := Option.some.inj same
    rw [viewed]

theorem engine_decodeMap_pairs {fields : Fields} (plain : ∀ field ∈ fields, field.1 < 2 ^ 64 ∧ field.2.Plain)
    (short : (cborEncodeMap fields).length < 2 ^ 64) :
    Engine.decodeMap reader (cborEncodeMap fields) = .ok (fields.map fun (k, v) => (.unsigned k, v)) := by
  unfold Engine.decodeMap
  rw [fromReader_fields reader plain short]

theorem azure_optBytesValue_plain (value : Option Bytes) : (optBytesValue value).PlainIn 254 := by
  cases value <;> trivial

theorem azure_optU32Value_plain {value : Option Nat} (fits : ∀ n ∈ value, n < 2 ^ 32) :
    (optU32Value value).PlainIn 254 := by
  cases value with
  | none => trivial
  | some n => exact (fits n rfl).trans (show 2 ^ 32 < 2 ^ 64 by decide)

theorem program_entries_plain (program : ProgramImageRow) :
    ∀ field ∈ program.entries, field.1 < 2 ^ 64 ∧ field.2.PlainIn 254 := by
  intro field member
  unfold ProgramImageRow.entries at member
  split at member
  · cases member
  · simp only [mem_append, mem_cons, not_mem_nil, or_false, mem_map, Option.mem_toList] at member
    rcases member with ((rfl | rfl) | ⟨filename, present, rfl⟩) | ⟨abi, present, rfl⟩
    · exact ⟨show 5 < 2 ^ 64 by decide, trivial⟩
    · exact ⟨show 6 < 2 ^ 64 by decide, program.profile_utf8⟩
    · exact ⟨show 7 < 2 ^ 64 by decide, program.filename_utf8 filename present⟩
    · exact ⟨show 8 < 2 ^ 64 by decide, (program.abiVersion_lt abi present).trans (show 2 ^ 32 < 2 ^ 64 by decide)⟩

variable (row program) in
theorem desiredStateEntries_plain :
    ∀ field ∈ desiredStateEntries row program, field.1 < 2 ^ 64 ∧ field.2.PlainIn 254 := by
  unfold desiredStateEntries
  rw [forall_mem_append]
  constructor
  · rw [forall_mem_cons, forall_mem_singleton]
    exact ⟨⟨show 1 < 2 ^ 64 by decide, azure_optBytesValue_plain _⟩,
      show 2 < 2 ^ 64 by decide, azure_optU32Value_plain row.interval_lt⟩
  · intro field member
    obtain ⟨program, -, member⟩ := mem_flatMap.mp member
    exact program_entries_plain program field member

theorem desiredStateMessage_plain {kind id : Bytes} {fields : Fields} (kindUtf8 : Cbor.isUtf8 kind = true)
    (idUtf8 : Cbor.isUtf8 id = true) (plain : ∀ field ∈ fields, field.1 < 2 ^ 64 ∧ field.2.PlainIn 254) :
    ∀ field ∈ desiredStateMessage kind id fields, field.1 < 2 ^ 64 ∧ field.2.Plain := by
  unfold desiredStateMessage
  rw [forall_mem_cons, forall_mem_cons, forall_mem_cons, forall_mem_singleton]
  exact ⟨⟨show 1 < 2 ^ 64 by decide, show 1 < 2 ^ 64 by decide⟩, ⟨show 2 < 2 ^ 64 by decide, kindUtf8⟩,
    ⟨show 3 < 2 ^ 64 by decide, idUtf8⟩, show 4 < 2 ^ 64 by decide, by decide, plainEntries_fields plain⟩

theorem readInboundMessage_node (short : (encodeDesiredState row program).length < 2 ^ 64) :
    ∃ map, Engine.readInboundMessage reader (encodeDesiredState row program) = .ok (.node row.nodeId map) ∧
      Holds map (desiredStateEntries row program) := by
  have inner := desiredStateEntries_plain row program
  have plain := desiredStateMessage_plain (show Cbor.isUtf8 (ascii "node") = true by decide) row.nodeId_utf8 inner
  have outer := mapGet_fields fun field member => (plain field member).1
  refine ⟨_, ?_, mapGet_fields fun field member => (inner field member).1⟩
  refine bind_eq_ok.mpr ⟨_, engine_decodeMap_pairs reader plain short, ?_⟩
  refine bind_eq_ok.mpr ⟨_, engine_required_found (outer 1) (asU64_unsigned (show 1 < 2 ^ 64 by decide)), ?_⟩
  refine bind_eq_ok.mpr ⟨_, engine_required_found (outer 2) rfl, ?_⟩
  refine bind_eq_ok.mpr ⟨_, engine_required_found (outer 3) rfl, ?_⟩
  refine bind_eq_ok.mpr ⟨_, engine_required_found (outer 4) rfl, ?_⟩
  rw [if_neg (by decide)]
  exact if_pos rfl

def inlineElf (program : Option ProgramImageRow) : Option Bytes := (program.map (·.elfImage)).filter (· ≠ [])

variable (row program) in
theorem findField_program : findField (desiredStateEntries row program) 3 = none ∧
    findField (desiredStateEntries row program) 5 = (inlineElf program).map Cbor.bytes := by
  cases program with
  | none => exact ⟨rfl, rfl⟩
  | some program =>
    obtain ⟨elfImage, sourceFilename, abiVersion, verificationProfile, -, -, -⟩ := program
    cases elfImage with
    | nil => exact ⟨rfl, rfl⟩
    | cons first rest =>
      cases sourceFilename <;> cases abiVersion <;> exact ⟨rfl, rfl⟩

section
variable {map : CborMap} (holds : Holds map (desiredStateEntries row program))
include holds

theorem readRequest_hash :
    Engine.optionalBytesField map 1 "assigned_program_hash" = .ok row.desiredAssignedProgramHash := by
  have found : Engine.mapGet map 1 = some (optBytesValue row.desiredAssignedProgramHash) := holds 1
  unfold Engine.optionalBytesField
  rw [found]
  cases row.desiredAssignedProgramHash <;> rfl

theorem readRequest_interval : Engine.optionalU32Field map 2 "schedule_interval_s" = .ok row.desiredScheduleIntervalS := by
  have found : Engine.mapGet map 2 = some (optU32Value row.desiredScheduleIntervalS) := holds 2
  cases interval : row.desiredScheduleIntervalS with
  | none =>
    rw [interval] at found
    unfold Engine.optionalU32Field
    rw [found]
    rfl
  | some n =>
    rw [interval] at found
    exact engine_optionalU32Field_found found (asU64_filter (row.interval_lt n interval) (by decide))

theorem readRequest_ephemeral : Engine.optionalBytesField map 3 "ephemeral_program_hash" = .ok none := by
  have found : Engine.mapGet map 3 = none := (holds 3).trans (findField_program row program).1
  unfold Engine.optionalBytesField
  rw [found]

theorem readRequest_elf : Engine.optionalBytesField map 5 "assigned_program_elf" = .ok (inlineElf program) := by
  have found : Engine.mapGet map 5 = (inlineElf program).map Cbor.bytes := (holds 5).trans (findField_program row program).2
  unfold Engine.optionalBytesField
  rw [found]
  cases inlineElf program <;> rfl

theorem readRequest_holds (named : program.isSome = true → row.desiredAssignedProgramHash.isSome = true) :
    Engine.readRequest map =
      .ok ⟨row.desiredAssignedProgramHash, row.desiredScheduleIntervalS, none, inlineElf program⟩ := by
  refine bind_eq_ok.mpr ⟨_, readRequest_hash holds, bind_eq_ok.mpr ⟨_, readRequest_interval holds, ?_⟩⟩
  refine bind_eq_ok.mpr ⟨_, readRequest_ephemeral holds, bind_eq_ok.mpr ⟨_, readRequest_elf holds, ?_⟩⟩
  refine if_neg fun bare => ?_
  have present : program.isSome = true := by
    cases program with
    | none => cases bare.1
    | some program => rfl
  rw [Option.isNone_iff_eq_none.mp bare.2] at named
  cases named present

end

end

/-! ## Deliveries -/

structure Delivery where
  message : ActualStateMessage
  surroundings : Surroundings

section
variable (sha256 : Bytes → Bytes)

def Delivery.after (delivery : Delivery) (t : Tables) : Tables :=
  ((handleActualState sha256 delivery.surroundings delivery.message).alone t).2

def partition (nodeId : Bytes) (t : Tables) : List ActualStateRow := nodePartition sha256 (·.nodeId) nodeId t.actualState

/-- No call of the delivery fails: not for a reason of its own, and not because the row is there already. -/
structure Delivery.Quiet (t : Tables) (delivery : Delivery) : Prop where
  calls : ∀ call, delivery.surroundings.faults call = none
  draws : ∃ nonce, delivery.surroundings.processNonce = .ok nonce ∧
    ∀ row ∈ partition sha256 delivery.message.entityId t,
      row.rowKey ≠ historyRowKey delivery.message.timestampMs delivery.surroundings.sequence nonce

def Differs (desired : DesiredStateRow) (message : ActualStateMessage) : Prop :=
  (∃ hash, desired.desiredAssignedProgramHash = some hash ∧ message.currentProgramHash ≠ some hash) ∨
  ∃ interval, desired.desiredScheduleIntervalS = some interval ∧ message.scheduleIntervalS ≠ some interval

def Newest (t : Tables) (message : ActualStateMessage) : Prop :=
  ∀ row ∈ t.actualState, row.nodeId = message.entityId → row.timestampMs ≤ message.timestampMs

/-- The desired row of a node stays the same, the rows of its partition are its own, and they have the keys of a history. -/
structure History (desired : DesiredStateRow) (t : Tables) : Prop where
  keyed : Keyed t.actualState
  own : ∀ row ∈ t.actualState, sha256 row.nodeId = sha256 desired.nodeId → row.nodeId = desired.nodeId
  fixed : first (·.rowKey) (nodePartition sha256 (·.nodeId) desired.nodeId t.desiredState) = some desired

variable {desired : DesiredStateRow} {t : Tables} {delivery : Delivery} {nonce : BitVec 64}

def Delivery.row (delivery : Delivery) (nonce : BitVec 64) : ActualStateRow :=
  .fromMessage (historyRowKey delivery.message.timestampMs delivery.surroundings.sequence nonce) delivery.message

def Delivery.stored (delivery : Delivery) (nonce : BitVec 64) (t : Tables) : Tables :=
  { t with actualState := t.actualState ++ [delivery.row nonce] }

theorem partition_stored : partition sha256 delivery.message.entityId (delivery.stored nonce t) =
      partition sha256 delivery.message.entityId t ++ [delivery.row nonce] := by
  unfold partition nodePartition Delivery.stored
  rw [filter_append]
  exact congrArg _ (filter_eq_self.mpr fun row member => by
    rw [mem_singleton.mp member]
    exact decide_eq_true rfl)

theorem History.stored (history : History sha256 desired t) (same : delivery.message.entityId = desired.nodeId) :
    History sha256 desired (delivery.stored nonce t) := by
  refine ⟨fun row member => ?_, fun row member _ => ?_, history.fixed⟩
  · rcases mem_append.mp member with old | new
    · exact history.keyed row old
    · rw [mem_singleton.mp new]
      exact ⟨_, _, rfl⟩
  · rename_i collides
    rcases mem_append.mp member with old | new
    · exact history.own row old collides
    · rw [mem_singleton.mp new]
      exact same

theorem latest_newer_iff (history : History sha256 desired t) (same : delivery.message.entityId = desired.nodeId)
    {latest : ActualStateRow}
    (found : first (·.rowKey) (partition sha256 delivery.message.entityId (delivery.stored nonce t)) = some latest) :
    delivery.message.timestampMs < latest.timestampMs ↔ ¬Newest t delivery.message := by
  have inside : ∀ {row}, row ∈ partition sha256 delivery.message.entityId t → row ∈ t.actualState :=
    fun member => (mem_filter.mp member).1
  constructor
  · intro newer newest
    have member := argmin_mem found
    rw [partition_stored] at member
    rcases mem_append.mp member with old | new
    · have named := history.own latest (inside old) (same ▸ of_decide_eq_true (mem_filter.mp old).2)
      exact BitVec.not_lt.mpr (newest latest (inside old) (named.trans same.symm)) newer
    · rw [mem_singleton.mp new] at newer
      exact BitVec.lt_irrefl _ newer
  · intro stale
    unfold Newest at stale
    push Not at stale
    obtain ⟨row, member, named, newer⟩ := stale
    have keyed : Keyed (partition sha256 delivery.message.entityId (delivery.stored nonce t)) :=
      fun row member => (history.stored sha256 same).keyed row (mem_filter.mp member).1
    have stored : row ∈ partition sha256 delivery.message.entityId (delivery.stored nonce t) := by
      rw [partition_stored]
      exact mem_append_left _ (mem_filter.mpr ⟨member, decide_eq_true (congrArg sha256 named)⟩)
    exact Nat.lt_of_lt_of_le (show delivery.message.timestampMs.toNat < row.timestampMs.toNat from BitVec.not_le.mp newer)
      (first_newest keyed found row stored)

theorem diverged_iff :
    (programDiverged desired (delivery.row nonce) || scheduleDiverged desired (delivery.row nonce)) = true ↔
      Differs desired delivery.message := by
  unfold programDiverged scheduleDiverged Differs
  rw [Bool.or_eq_true, Option.any_eq_true, Option.any_eq_true]
  simp only [decide_eq_true_eq]
  exact Iff.rfl

theorem loadDesiredProgram_alone (calls : ∀ call, delivery.surroundings.faults call = none)
    (desired : DesiredStateRow) (row : ActualStateRow) (t : Tables) :
    ∃ program : Option ProgramImageRow,
      (program.isSome = true → desired.desiredAssignedProgramHash.isSome = true) ∧
      (loadDesiredProgram delivery.surroundings desired row).alone t = (.ok program, t) := by
  unfold loadDesiredProgram
  split
  · cases desired.desiredAssignedProgramHash with
    | none => exact ⟨none, nofun, rfl⟩
    | some hash =>
      refine ⟨(t.programs hash).map (·.row), fun _ => rfl, ?_⟩
      rw [Surroundings.call_alone (calls _)]
      rfl
  · exact ⟨none, nofun, rfl⟩

theorem evaluateActualState_alone (history : History sha256 desired t)
    (same : delivery.message.entityId = desired.nodeId) (calls : ∀ call, delivery.surroundings.faults call = none)
    (nonce : BitVec 64) : (Differs desired delivery.message → ∃ program : Option ProgramImageRow,
      (program.isSome = true → desired.desiredAssignedProgramHash.isSome = true) ∧
      (evaluateActualState sha256 delivery.surroundings (delivery.row nonce)).alone t =
        (.ok (), { t with published := t.published ++ [.node desired program] })) ∧
    (¬Differs desired delivery.message →
      (evaluateActualState sha256 delivery.surroundings (delivery.row nonce)).alone t = (.ok (), t)) := by
  have own : (delivery.row nonce).nodeId = desired.nodeId := same
  have loaded : (delivery.surroundings.call .loadLatestDesiredState
      (loadLatestDesiredState sha256 (delivery.row nonce).nodeId)).alone t = (.ok (some desired), t) := by
    rw [Surroundings.call_alone (calls _), own]
    exact congrArg (fun found => (Except.ok found, t)) history.fixed
  unfold evaluateActualState
  rw [Task.alone_bind_ok loaded]
  dsimp only
  rw [if_neg (not_not.mpr own.symm)]
  constructor
  · intro differs
    obtain ⟨program, named, run⟩ := loadDesiredProgram_alone calls desired (delivery.row nonce) t
    refine ⟨program, named, ?_⟩
    rw [if_pos (diverged_iff.mpr differs), Task.alone_bind_ok run, Surroundings.call_alone (calls _)]
    rfl
  · intro agrees
    rw [if_neg (mt diverged_iff.mp agrees)]
    rfl

theorem after_cases (history : History sha256 desired t) (same : delivery.message.entityId = desired.nodeId)
    (named : desired.nodeId ≠ []) (quiet : delivery.Quiet sha256 t) : ∃ nonce,
      (Newest t delivery.message ∧ Differs desired delivery.message → ∃ program : Option ProgramImageRow,
        (program.isSome = true → desired.desiredAssignedProgramHash.isSome = true) ∧
        delivery.after sha256 t = { delivery.stored nonce t with published := t.published ++ [.node desired program] }) ∧
      (¬(Newest t delivery.message ∧ Differs desired delivery.message) → delivery.after sha256 t = delivery.stored nonce t) := by
  obtain ⟨nonce, drawn, fresh⟩ := quiet.draws
  have appended : (delivery.surroundings.call .appendActualState
      (appendActualState sha256 (delivery.row nonce))).alone t = (.ok (), delivery.stored nonce t) := by
    rw [Surroundings.call_alone (quiet.calls _)]
    refine if_neg fun taken => ?_
    obtain ⟨row, member, equal⟩ := any_eq_true.mp taken
    exact fresh row member (of_decide_eq_true equal)
  obtain ⟨latest, found⟩ : ∃ latest, first (·.rowKey)
      (partition sha256 delivery.message.entityId (delivery.stored nonce t)) = some latest := by
    rw [partition_stored]
    exact first_isSome (mem_append_right _ mem_cons_self)
  have loaded : (delivery.surroundings.call .loadLatestActualState
      (loadLatestActualState sha256 delivery.message.entityId)).alone (delivery.stored nonce t) =
      (.ok (some latest), delivery.stored nonce t) := by
    rw [Surroundings.call_alone (quiet.calls _)]
    exact congrArg (fun found => (Except.ok found, delivery.stored nonce t)) found
  have run : (handleActualState sha256 delivery.surroundings delivery.message).alone t =
      (if delivery.message.timestampMs < latest.timestampMs then pure ()
        else evaluateActualState sha256 delivery.surroundings (delivery.row nonce)).alone (delivery.stored nonce t) := by
    unfold handleActualState Surroundings.nextHistoryRowKey
    rw [if_neg (same ▸ named), drawn]
    exact (Task.alone_bind_ok appended).trans (Task.alone_bind_ok loaded)
  have newer := latest_newer_iff sha256 history same found
  obtain ⟨sends, agrees⟩ := evaluateActualState_alone sha256 (history.stored sha256 same) same quiet.calls nonce
  refine ⟨nonce, fun ⟨newest, differs⟩ => ?_, fun other => ?_⟩
  · obtain ⟨program, present, sent⟩ := sends differs
    refine ⟨program, present, ?_⟩
    unfold Delivery.after
    rw [run, if_neg (fun stale => newer.mp stale newest), sent]
    rfl
  · unfold Delivery.after
    rw [run]
    by_cases newest : Newest t delivery.message
    · rw [if_neg (fun stale => newer.mp stale newest), agrees fun differs => other ⟨newest, differs⟩]
    · rw [if_pos (newer.mpr newest)]
      rfl

variable (reader : Cbor.Reader)

def ReadsAs (desired : DesiredStateRow) (m : DesiredStateMessage) : Prop :=
  m.encode.length < 2 ^ 64 → ∃ map elf, Engine.readInboundMessage reader m.encode = .ok (.node desired.nodeId map) ∧
    Engine.readRequest map = .ok ⟨desired.desiredAssignedProgramHash, desired.desiredScheduleIntervalS, none, elf⟩

def ForNode (desired : DesiredStateRow) (t : Tables) (delivery : Delivery) : Prop :=
  delivery.message.entityId = desired.nodeId ∧ delivery.Quiet sha256 t

/-- Something is sent for the delivery just if it is the newest report and differs, and it reads as the row. -/
def Exact (desired : DesiredStateRow) (t : Tables) (delivery : Delivery) : Prop :=
  ∃ sent, (delivery.after sha256 t).published = t.published ++ sent ∧
    (sent ≠ [] ↔ Newest t delivery.message ∧ Differs desired delivery.message) ∧ ∀ m ∈ sent, ReadsAs reader desired m

theorem after_exact (named : desired.nodeId ≠ []) (history : History sha256 desired t)
    (genuine : ForNode sha256 desired t delivery) :
    History sha256 desired (delivery.after sha256 t) ∧ Exact sha256 reader desired t delivery := by
  obtain ⟨same, quiet⟩ := genuine
  obtain ⟨nonce, sends, keeps⟩ := after_cases sha256 history same named quiet
  have stored : History sha256 desired (delivery.stored nonce t) := history.stored sha256 same
  by_cases due : Newest t delivery.message ∧ Differs desired delivery.message
  · obtain ⟨program, present, after⟩ := sends due
    rw [after]
    refine ⟨⟨stored.keyed, stored.own, stored.fixed⟩, [.node desired program], congrArg (·.published) after, ?_, ?_⟩
    · exact iff_of_true (cons_ne_nil _ _) due
    · intro m member short
      obtain rfl := mem_singleton.mp member
      obtain ⟨map, opened, holds⟩ := readInboundMessage_node reader short
      exact ⟨map, _, opened, readRequest_holds holds present⟩
  · have after := keeps due
    rw [after]
    refine ⟨stored, [], (congrArg (·.published) after).trans (append_nil _).symm, ?_, nofun⟩
    exact iff_of_false (not_not.mpr rfl) due

theorem divergence_exact {deliveries : List Delivery} (named : desired.nodeId ≠ []) (history : History sha256 desired t)
    (genuine : Throughout (fun t delivery => delivery.after sha256 t) (ForNode sha256 desired) t deliveries) :
    Throughout (fun t delivery => delivery.after sha256 t) (Exact sha256 reader desired) t deliveries :=
  Throughout.mono (fun _ _ history genuine => (after_exact sha256 reader named history genuine).1)
    (fun _ _ history genuine => (after_exact sha256 reader named history genuine).2) history genuine

end

def desiredRow : DesiredStateRow where
  rowKey := historyRowKey 1 0 7
  nodeId := [0x6e]
  desiredAssignedProgramHash := some (replicate 32 9)
  desiredScheduleIntervalS := none
  timestampMs := 1
  nodeId_utf8 := by decide
  interval_lt := nofun

def freshTables : Tables where
  actualState := []
  gatewayActualState _ := []
  desiredState := [desiredRow]
  gatewayDesiredState _ := []
  programs _ := none
  published := []

def emptyReport (timestampMs : BitVec 64) : ActualStateMessage :=
  receivedActualState ⟨ascii "node", [0x6e], some [], none, some 60, some 3000, some 1, some [0x31], timestampMs,
    none, none, none, none⟩

def reportAt (timestampMs sequence : BitVec 64) : Delivery := ⟨emptyReport timestampMs, ⟨fun _ => none, sequence, 0, .ok 7⟩⟩

theorem divergence_exact_late : ((reportAt 3 1).after id ((reportAt 5 0).after id freshTables)).published.length = 1 ∧
    Throughout (fun t delivery => delivery.after id t) (Exact id .definite desiredRow) freshTables
      [reportAt 5 0, reportAt 3 1] := by
  have history : History id desiredRow freshTables := ⟨forall_mem_nil _, forall_mem_nil _, by decide +kernel⟩
  refine ⟨by decide +kernel, divergence_exact id .definite (by decide) history ?_⟩
  exact ⟨⟨rfl, fun _ => rfl, 7, rfl, by decide +kernel⟩, ⟨rfl, fun _ => rfl, 7, rfl, by decide +kernel⟩, trivial⟩

end Sonde.System
