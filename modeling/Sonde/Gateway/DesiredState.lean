import Sonde.Gateway.Accesses

/-!
# A desired state as a whole

`apply_node_desired_state` loads the node and reads the fields, stores the inline program, checks the programs that the
message names, and writes the record and the queue.
-/

namespace Sonde.Engine
open Lib Protocol Sonde.Gateway

structure Request where
  assignedProgramHash : Option Bytes
  scheduleIntervalS : Option Nat
  ephemeralProgramHash : Option Bytes
  inlineElf : Option Bytes

def readRequest (desiredState : DesiredState) : Except String Request := do
  let assignedProgramHash ← optionalBytesField desiredState 1 "assigned_program_hash"
  let scheduleIntervalS ← optionalU32Field desiredState 2 "schedule_interval_s"
  let ephemeralProgramHash ← optionalBytesField desiredState 3 "ephemeral_program_hash"
  let inlineElf ← optionalBytesField desiredState 5 "assigned_program_elf"
  if inlineElf.isSome ∧ assignedProgramHash.isNone then
    .error ("`assigned_program_elf` (key 5) present but `assigned_program_hash` (key 1) missing; " ++
      "the entire DESIRED_STATE is rejected per GW-0811")
  else .ok ⟨assignedProgramHash, scheduleIntervalS, ephemeralProgramHash, inlineElf⟩

variable {record other : ProgramRecord}

section
variable (lib : ConnectorLibraries) (faults : AdminFaults) (nodeId : String) (desiredState : DesiredState)
  (node : NodeRecord) (request : Request)

def checkPrograms : ConnectorTask Unit := do
  ifPresent request.assignedProgramHash (validateAssignedProgram lib faults node.nodeId)
  ifPresent request.ephemeralProgramHash (validateEphemeralProgram lib faults node.nodeId)

def writeRequest : ConnectorTask Unit := do
  storageCall (some node.nodeId) (faults .upsertNode) (fun e => s!"update node `{nodeId}` failed: {e}")
    (.upsertNode node (.assignedProgramHash request.assignedProgramHash :: scheduleUpdates request.scheduleIntervalS))
    (writeNode (desiredRecord node request.assignedProgramHash request.scheduleIntervalS))
  .atomic ⟨some node.nodeId, .other⟩
    (editPending nodeId (desiredQueue request.scheduleIntervalS request.ephemeralProgramHash))

theorem applyNodeDesiredState_eq : applyNodeDesiredState lib faults nodeId desiredState = (do
      let node ← loadExistingNode faults nodeId
      let request ← .ofExcept (readRequest desiredState)
      storeInlineProgram lib faults node.nodeId desiredState request.assignedProgramHash request.inlineElf
      checkPrograms lib faults node request
      writeRequest faults nodeId node request) := by
  refine bind_congr fun node => ?_
  unfold readRequest
  cases optionalBytesField desiredState 1 "assigned_program_hash" with
  | error e => rfl
  | ok assignedProgramHash =>
  cases optionalU32Field desiredState 2 "schedule_interval_s" with
  | error e => rfl
  | ok scheduleIntervalS =>
  cases optionalBytesField desiredState 3 "ephemeral_program_hash" with
  | error e => rfl
  | ok ephemeralProgramHash =>
  cases optionalBytesField desiredState 5 "assigned_program_elf" with
  | error e => rfl
  | ok inlineElf =>
    change (ite _ _ _ : ConnectorTask Unit) = Task.ofExcept (ite _ _ _) >>= _
    by_cases bare : inlineElf.isSome ∧ assignedProgramHash.isNone
    · rw [if_pos bare, if_pos bare]
      rfl
    · rw [if_neg bare, if_neg bare]
      exact bind_congr fun _ => (Task.bind_assoc _ _ _).symm

/-! ## When they succeed -/

variable {ε α : Type}

theorem storageCall_inspects (holds : Option String) (fault : Option StorageError)
    (failed : StorageError → ε) (access : Access) (f : Gateway → α) (g : Gateway) :
    (storageCall holds fault failed access (Program.read f)).Inspects g fun a => fault = none ∧ a = f g := by
  cases fault with
  | some e => exact .stop fun a both => by cases both.1
  | none => exact (Task.Inspects.read _ f).mono fun a => ⟨fun same => ⟨rfl, same⟩, fun both => both.2⟩

theorem foundOr_inspects (missing : ε) (found : Option α) (g : Gateway) :
    (foundOr missing found).Inspects g fun a => found = some a := by
  cases found with
  | some a => exact .pure rfl
  | none => exact .stop fun a none => by cases none

theorem lookup_inspects (holds : Option String) (fault : Option StorageError) (failed : StorageError → ε)
    (missing : ε) (f : Gateway → Option α) (g : Gateway) :
    (storageCall holds fault failed .other (Program.read f) >>= foundOr missing).Inspects g fun a =>
      fault = none ∧ f g = some a := by
  refine (Task.Inspects.bind (storageCall_inspects holds fault failed .other f g)
    (fun found _ => foundOr_inspects missing found g) fun a a' left right => left.2.trans right.2.symm).mono fun a => ?_
  constructor
  · rintro ⟨found, ⟨none, rfl⟩, same⟩
    exact ⟨none, same⟩
  · rintro ⟨none, same⟩
    exact ⟨f g, ⟨none, rfl⟩, same⟩

def Available (fault : Option StorageError) (programs : Bytes → Option ProgramRecord) (programHash : Bytes)
    (record : ProgramRecord) : Prop :=
  programHash.length = programHashLen ∧ fault = none ∧ programs programHash = some record

theorem checkProgramHash_ok (context operation : String) (programHash : Bytes) :
    (∃ programHashHex, checkProgramHash lib context operation programHash = .ok programHashHex) ↔
      programHash.length = programHashLen := by
  unfold checkProgramHash validateProgramHashBytes
  dsimp only
  split
  · rename_i wrong
    exact iff_of_false (fun ⟨_, same⟩ => by cases same) wrong
  · rename_i right
    exact iff_of_true ⟨_, rfl⟩ (not_not.mp right)

theorem validateProgramExists_inspects (fault : Option StorageError) (holder context operation : String)
    (programHash : Bytes) (g : Gateway) :
    (validateProgramExists lib fault holder context operation programHash).Inspects g
      (Available fault g.programs programHash) := by
  refine (Task.Inspects.bind (Task.Inspects.ofExcept _) (fun programHashHex _ => lookup_inspects _ fault _ _ _ g)
    fun hex hex' left right => Except.ok.inj (left.symm.trans right)).mono fun record => ?_
  constructor
  · rintro ⟨hex, valid, found⟩
    exact ⟨(checkProgramHash_ok lib context operation programHash).mp ⟨hex, valid⟩, found⟩
  · rintro ⟨length, found⟩
    obtain ⟨hex, valid⟩ := (checkProgramHash_ok lib context operation programHash).mpr length
    exact ⟨hex, valid, found⟩

theorem Available.unique {fault : Option StorageError} {programs : Bytes → Option ProgramRecord} {programHash : Bytes} (left : Available fault programs programHash record)
    (right : Available fault programs programHash other) : record = other :=
  Option.some.inj (left.2.2.symm.trans right.2.2)

theorem validateAssignedProgram_inspects (programHash : Bytes) (g : Gateway) :
    (validateAssignedProgram lib faults node.nodeId programHash).Inspects g fun _ =>
      ∃ record, Available (faults .getProgram) g.programs programHash record :=
  (Task.Inspects.bind (validateProgramExists_inspects lib _ _ _ _ programHash g) (R := fun _ _ => True)
    (fun _ _ => Task.Inspects.pure trivial) fun _ _ => Available.unique).mono fun _ => by simp only [and_true]

theorem validateEphemeralProgram_inspects (programHash : Bytes) (g : Gateway) :
    (validateEphemeralProgram lib faults node.nodeId programHash).Inspects g fun _ =>
      ∃ record, Available (faults .ephemeralProgram) g.programs programHash record ∧
        record.verificationProfile = .ephemeral := by
  refine .bind (validateProgramExists_inspects lib _ _ _ _ programHash g) (fun record _ => ?_) fun _ _ => Available.unique
  split
  · rename_i resident
    exact .stop fun _ ephemeral => resident ephemeral
  · rename_i ephemeral
    exact .pure (not_not.mp ephemeral)

theorem ifPresent_inspects (a : Option α) {check : α → ConnectorTask Unit} {g : Gateway} {P : α → Prop}
    (each : ∀ a, (check a).Inspects g fun _ => P a) :
    (ifPresent a check).Inspects g fun _ => ∀ present ∈ a, P present := by
  cases a with
  | none => exact .pure fun present none => by cases none
  | some a =>
    refine (each a).mono fun _ => ⟨fun holds present same => ?_, fun all => all a rfl⟩
    cases same
    exact holds

structure Passes (faults : AdminFaults) (request : Request) (programs : Bytes → Option ProgramRecord) : Prop where
  assigned : ∀ programHash ∈ request.assignedProgramHash,
    ∃ record, Available (faults .getProgram) programs programHash record
  ephemeral : ∀ programHash ∈ request.ephemeralProgramHash,
    ∃ record, Available (faults .ephemeralProgram) programs programHash record ∧ record.verificationProfile = .ephemeral

theorem checkPrograms_inspects (g : Gateway) :
    (checkPrograms lib faults node request).Inspects g fun _ => Passes faults request g.programs :=
  (Task.Inspects.bind (ifPresent_inspects _ fun programHash => validateAssignedProgram_inspects lib faults node programHash g)
    (fun _ _ => ifPresent_inspects _ fun programHash => validateEphemeralProgram_inspects lib faults node programHash g)
    fun _ _ _ _ => rfl).mono fun _ => ⟨fun ⟨_, assigned, ephemeral⟩ => ⟨assigned, ephemeral⟩,
      fun passes => ⟨(), passes.assigned, passes.ephemeral⟩⟩

def Loads (faults : AdminFaults) (nodeId : String) (g : Gateway) (node : NodeRecord) : Prop :=
  nodeId ≠ "" ∧ faults .getNode = none ∧ g.nodes.lookup nodeId = some node

theorem loadExistingNode_inspects (g : Gateway) : (loadExistingNode faults nodeId).Inspects g (Loads faults nodeId g) := by
  unfold loadExistingNode
  split
  · rename_i empty
    exact .stop fun _ loads => loads.1 empty
  · rename_i named
    exact (lookup_inspects none (faults .getNode) _ _ _ g).mono fun _ => ⟨fun found => ⟨named, found⟩, fun loads => loads.2⟩

def Gateway.withProgram (record : ProgramRecord) (g : Gateway) : Gateway := (storeProgram record g).2

theorem Gateway.withProgram_self (record : ProgramRecord) (g : Gateway) : (g.withProgram record).programs record.hash =
      some { record with sourceFilename := normalizeDisplayFilename record.sourceFilename } := by
  simp only [withProgram, storeProgram, Program.update_run, Function.update_self]

def Stores (record : ProgramRecord) : Prop :=
  ∃ declaredHash elf, request.assignedProgramHash = some declaredHash ∧ request.inlineElf = some elf ∧
    inlineProgram lib desiredState declaredHash elf = .ok record ∧ faults .storeProgram = none

theorem storeInlineProgram_alone (g : Gateway) :
    let run := (storeInlineProgram lib faults node.nodeId desiredState request.assignedProgramHash request.inlineElf).alone g
    ((request.assignedProgramHash = none ∨ request.inlineElf = none) ∧ run = (.ok (), g)) ∨
    (∃ record, Stores lib faults desiredState request record ∧ run = (.ok (), g.withProgram record)) ∨
    ∃ e, run = (.error e, g) ∧ ∀ record, ¬Stores lib faults desiredState request record := by
  unfold Stores
  cases request.assignedProgramHash with
  | none => exact .inl ⟨.inl rfl, rfl⟩
  | some declaredHash =>
  cases request.inlineElf with
  | none => exact .inl ⟨.inr rfl, rfl⟩
  | some elf =>
  refine .inr ?_
  unfold storeInlineProgram
  dsimp only
  cases ingested : inlineProgram lib desiredState declaredHash elf with
  | error e =>
    refine .inr ⟨e, rfl, ?_⟩
    rintro record ⟨declared, binary, ⟨⟩, ⟨⟩, same, _⟩
    rw [ingested] at same
    cases same
  | ok record =>
    cases fault : faults .storeProgram with
    | some e => exact .inr ⟨_, rfl, by rintro record ⟨declared, binary, _, _, _, ⟨⟩⟩⟩
    | none => exact .inl ⟨record, ⟨declaredHash, elf, rfl, rfl, ingested, rfl⟩, rfl⟩

def Gateway.withRequest (nodeId : String) (node : NodeRecord) (request : Request) (g : Gateway) : Gateway :=
  let record := desiredRecord node request.assignedProgramHash request.scheduleIntervalS
  { g with
    nodes := g.nodes.insert record.nodeId record
    pendingCommands := Function.update g.pendingCommands nodeId
      (desiredQueue request.scheduleIntervalS request.ephemeralProgramHash (g.pendingCommands nodeId)) }

theorem writeRequest_alone (g : Gateway) :
    (faults .upsertNode = none ∧ (writeRequest faults nodeId node request).alone g =
      (.ok (), g.withRequest nodeId node request)) ∨
    (faults .upsertNode ≠ none ∧ ∃ e, (writeRequest faults nodeId node request).alone g = (.error e, g)) := by
  unfold writeRequest
  cases faults .upsertNode with
  | none => exact .inl ⟨rfl, rfl⟩
  | some e => exact .inr ⟨by simp, _, rfl⟩

end

/-! ## All or nothing -/

structure Unchanged (nodeId : String) (g g' : Gateway) : Prop where
  programs : g'.programs = g.programs
  record : g'.nodes.lookup nodeId = g.nodes.lookup nodeId
  queue : g'.pendingCommands nodeId = g.pendingCommands nodeId

def InlineStored (lib : ConnectorLibraries) (desiredState : DesiredState) (request : Request)
    (programs : Bytes → Option ProgramRecord) : Prop :=
  ∀ declaredHash elf, request.assignedProgramHash = some declaredHash → request.inlineElf = some elf →
    ∃ record, inlineProgram lib desiredState declaredHash elf = .ok record ∧ programs declaredHash =
      some { record with sourceFilename := normalizeDisplayFilename record.sourceFilename }

structure Applied (lib : ConnectorLibraries) (nodeId : String) (desiredState : DesiredState) (request : Request)
    (g' : Gateway) : Prop where
  inlineElf : InlineStored lib desiredState request g'.programs
  record : ∃ record, g'.nodes.lookup nodeId = some record ∧ record.assignedProgramHash = request.assignedProgramHash ∧
    record.desiredScheduleIntervalS = request.scheduleIntervalS ∧
    ∀ intervalS ∈ request.scheduleIntervalS, record.scheduleIntervalS = intervalS
  schedule : (g'.pendingCommands nodeId).filterMap scheduleInterval = request.scheduleIntervalS.toList
  ephemeral : (g'.pendingCommands nodeId).filterMap ephemeralHash = request.ephemeralProgramHash.toList

def AllOrNothing (lib : ConnectorLibraries) (faults : AdminFaults) (nodeId : String) (desiredState : DesiredState)
    (g : Gateway) : Prop :=
  match (applyNodeDesiredState lib faults nodeId desiredState).alone g with
  | (.error _, g') => Unchanged nodeId g g'
  | (.ok _, g') => ∃ request, readRequest desiredState = .ok request ∧ Applied lib nodeId desiredState request g'

section
variable {lib : ConnectorLibraries} {faults : AdminFaults} {nodeId : String} {desiredState : DesiredState} {g : Gateway}
  {node : NodeRecord} {request : Request}

theorem desiredQueue_filterMap {β : Type} {kind : PendingCommand → Option β}
    (dropped : ∀ c, scheduleInterval c = none → ephemeralHash c = none → kind c = none) (scheduleIntervalS : Option Nat)
    (ephemeralProgramHash : Option Bytes) (commands : List PendingCommand) :
    (desiredQueue scheduleIntervalS ephemeralProgramHash commands).filterMap kind =
      (desiredQueue scheduleIntervalS ephemeralProgramHash []).filterMap kind := by
  have kept : (commands.filter fun c => (scheduleInterval c).isNone ∧ (ephemeralHash c).isNone).filterMap kind = [] := by
    refine List.filterMap_eq_nil_iff.mpr fun command member => ?_
    have both := of_decide_eq_true (List.mem_filter.mp member).2
    exact dropped command (Option.isNone_iff_eq_none.mp both.1) (Option.isNone_iff_eq_none.mp both.2)
  simp only [desiredQueue, List.filterMap_append, kept, List.filter_nil, List.filterMap_nil]

theorem inlineProgram_hash {declaredHash elf : Bytes}
    (ingested : inlineProgram lib desiredState declaredHash elf = .ok record) : record.hash = declaredHash := by
  unfold inlineProgram at ingested
  dsimp only at ingested
  split at ingested
  · cases ingested
  simp only [bind_eq_ok] at ingested
  obtain ⟨name, -, profile, -, sourceFilename, -, abiVersion, -, made, -, rest⟩ := ingested
  split at rest
  · cases rest
  · rename_i same
    cases rest
    exact not_not.mp same

theorem Stores.unique (left : Stores lib faults desiredState request record)
    (right : Stores lib faults desiredState request other) : record = other := by
  obtain ⟨declaredHash, elf, declared, carried, ingested, -⟩ := left
  obtain ⟨declaredHash', elf', declared', carried', ingested', -⟩ := right
  cases declared.symm.trans declared'
  cases carried.symm.trans carried'
  exact Except.ok.inj (ingested.symm.trans ingested')

theorem Stores.inlineStored (stores : Stores lib faults desiredState request record) :
    InlineStored lib desiredState request (g.withProgram record).programs := by
  obtain ⟨declaredHash, elf, declared, carried, ingested, -⟩ := stores
  intro declaredHash' elf' declared' carried'
  cases declared.symm.trans declared'
  cases carried.symm.trans carried'
  refine ⟨record, ingested, ?_⟩
  rw [← inlineProgram_hash ingested]
  exact g.withProgram_self record

theorem withRequest_applied (named : node.nodeId = nodeId) {written : Gateway}
    (inlineElf : InlineStored lib desiredState request written.programs) :
    Applied lib nodeId desiredState request (written.withRequest nodeId node request) := by
  obtain ⟨assignedProgramHash, scheduleIntervalS, ephemeralProgramHash, elf⟩ := request
  subst named
  have key : (desiredRecord node assignedProgramHash scheduleIntervalS).nodeId = node.nodeId := by
    cases scheduleIntervalS <;> rfl
  refine ⟨inlineElf, ⟨desiredRecord node assignedProgramHash scheduleIntervalS, ?_, ?_, ?_, ?_⟩, ?_, ?_⟩
  · simp only [Gateway.withRequest, key]
    exact AList.lookup_insert _
  · cases scheduleIntervalS <;> rfl
  · cases scheduleIntervalS <;> rfl
  · rintro intervalS ⟨⟩
    rfl
  · refine (congrArg _ (Function.update_self ..)).trans ((desiredQueue_filterMap (fun _ none _ => none) ..).trans ?_)
    cases scheduleIntervalS <;> cases ephemeralProgramHash <;> rfl
  · refine (congrArg _ (Function.update_self ..)).trans ((desiredQueue_filterMap (fun _ _ none => none) ..).trans ?_)
    cases scheduleIntervalS <;> cases ephemeralProgramHash <;> rfl

def Completes (faults : AdminFaults) (request : Request) (programs : Bytes → Option ProgramRecord) : Prop :=
  Passes faults request programs ∧ faults .upsertNode = none

theorem finish_alone (written : Gateway) :
    let run := (checkPrograms lib faults node request >>= fun _ => writeRequest faults nodeId node request).alone written
    (Completes faults request written.programs ∧ run = (.ok (), written.withRequest nodeId node request)) ∨
    (¬Completes faults request written.programs ∧ ∃ e, run = (.error e, written)) := by
  rcases checkPrograms_inspects lib faults node request written with ⟨⟨⟩, checked, passes⟩ | ⟨e, failed, never⟩
  · rw [Task.alone_bind_ok checked]
    rcases writeRequest_alone faults nodeId node request written with ⟨taken, run⟩ | ⟨refused, e, run⟩
    · exact .inl ⟨⟨passes, taken⟩, run⟩
    · exact .inr ⟨fun completes => refused completes.2, e, run⟩
  · exact .inr ⟨fun completes => never () completes.1, e, Task.alone_bind_error failed⟩

variable (lib faults nodeId desiredState g) in
theorem applyNodeDesiredState_run :
    let run := (applyNodeDesiredState lib faults nodeId desiredState).alone g
    (∃ node request, Loads faults nodeId g node ∧ readRequest desiredState = .ok request ∧
      (request.assignedProgramHash = none ∨ request.inlineElf = none) ∧
      (run = (.ok (), g.withRequest nodeId node request) ∨ ∃ e, run = (.error e, g))) ∨
    (∃ node request record, Loads faults nodeId g node ∧ readRequest desiredState = .ok request ∧
      Stores lib faults desiredState request record ∧
      ((Completes faults request (g.withProgram record).programs ∧
          run = (.ok (), (g.withProgram record).withRequest nodeId node request)) ∨
        (¬Completes faults request (g.withProgram record).programs ∧ ∃ e, run = (.error e, g.withProgram record)))) ∨
    ((∃ e, run = (.error e, g)) ∧ ∀ node request record, Loads faults nodeId g node →
      readRequest desiredState = .ok request → ¬Stores lib faults desiredState request record) := by
  rw [applyNodeDesiredState_eq]
  rcases loadExistingNode_inspects faults nodeId g with ⟨node, loaded, loads⟩ | ⟨e, failed, never⟩
  · rw [Task.alone_bind_ok loaded]
    cases read : readRequest desiredState with
    | error e => exact .inr (.inr ⟨⟨e, rfl⟩, fun _ _ _ _ same => by cases same⟩)
    | ok request =>
      have parsed : (.ofExcept (.ok request) : ConnectorTask Request).alone g = (.ok request, g) := rfl
      rw [Task.alone_bind_ok parsed]
      rcases storeInlineProgram_alone lib faults desiredState node request g with
        ⟨bare, run⟩ | ⟨record, stores, run⟩ | ⟨e, run, never⟩
      · refine .inl ⟨node, request, loads, rfl, bare, ?_⟩
        rw [Task.alone_bind_ok run]
        exact (finish_alone g).imp And.right And.right
      · refine .inr (.inl ⟨node, request, record, loads, rfl, stores, ?_⟩)
        rw [Task.alone_bind_ok run]
        exact finish_alone _
      · refine .inr (.inr ⟨⟨e, Task.alone_bind_error run⟩, fun _ other record _ same => ?_⟩)
        cases same
        exact never record
  · exact .inr (.inr ⟨⟨e, Task.alone_bind_error failed⟩, fun node _ _ loads => absurd loads (never node)⟩)

def Gateway.StoredFrom (g written : Gateway) : Prop := written = g ∨ ∃ record, written = g.withProgram record

variable (lib faults nodeId desiredState g) in
theorem applyNodeDesiredState_cases :
    let run := (applyNodeDesiredState lib faults nodeId desiredState).alone g
    ∃ written, g.StoredFrom written ∧
      ((∃ node request, Loads faults nodeId g node ∧ readRequest desiredState = .ok request ∧
          run = (.ok (), written.withRequest nodeId node request)) ∨
        ∃ e, run = (.error e, written)) := by
  rcases applyNodeDesiredState_run lib faults nodeId desiredState g with
    ⟨node, request, loads, read, -, run⟩ | ⟨node, request, record, loads, read, -, run⟩ | ⟨run, -⟩
  · exact ⟨g, .inl rfl, run.imp (fun applied => ⟨node, request, loads, read, applied⟩) id⟩
  · refine ⟨g.withProgram record, .inr ⟨record, rfl⟩, ?_⟩
    exact run.imp (fun applied => ⟨node, request, loads, read, applied.2⟩) And.right
  · exact ⟨g, .inl rfl, .inr run⟩

theorem Unchanged.refl : Unchanged nodeId g g := ⟨rfl, rfl, rfl⟩

/-- The call fails only if it has changed nothing, and otherwise does everything, exactly when the programs that the message
names can be used, and the record be written, in every case in which an inline program is stored that is not in the library
as it is. -/
theorem applyNodeDesiredState_allOrNothing_iff (keyed : Keyed g) : AllOrNothing lib faults nodeId desiredState g ↔
      ∀ node request record, Loads faults nodeId g node → readRequest desiredState = .ok request →
        Stores lib faults desiredState request record → (g.withProgram record).programs ≠ g.programs →
        Completes faults request (g.withProgram record).programs := by
  unfold AllOrNothing
  rcases applyNodeDesiredState_run lib faults nodeId desiredState g with
    ⟨node, request, loads, read, bare, run⟩ | ⟨node, request, record, loads, read, stores, run⟩ | ⟨⟨e, run⟩, never⟩
  · refine iff_of_true ?_ fun _ other record _ same ⟨declaredHash, elf, declared, carried, _⟩ => ?_
    · rcases run with run | ⟨e, run⟩
      · rw [run]
        refine ⟨request, read, withRequest_applied (keyed _ _ loads.2.2) fun declaredHash elf declared carried => ?_⟩
        rw [declared, carried] at bare
        simp at bare
      · rw [run]
        exact .refl
    · cases read.symm.trans same
      rw [declared, carried] at bare
      simp at bare
  · rcases run with ⟨completes, run⟩ | ⟨incomplete, e, run⟩
    · rw [run]
      refine iff_of_true ⟨request, read, withRequest_applied (keyed _ _ loads.2.2) stores.inlineStored⟩ ?_
      intro _ other stored _ same storesToo _
      cases read.symm.trans same
      obtain rfl := stores.unique storesToo
      exact completes
    · rw [run]
      constructor
      · intro unchanged _ _ _ _ same storesToo changed
        cases read.symm.trans same
        obtain rfl := stores.unique storesToo
        exact absurd unchanged.programs changed
      · intro complete
        have same : (g.withProgram record).programs = g.programs :=
          not_not.mp fun changed => incomplete (complete node request record loads read stores changed)
        exact ⟨same, rfl, rfl⟩
  · rw [run]
    exact iff_of_true .refl fun node request record loads read stores =>
      absurd stores (never node request record loads read)

end

def smallConnector : ConnectorLibraries where
  ingestElf elf profile := .ok ⟨smallHash, elf, elf.length, profile, none, none, none⟩
  statusText _ := ""

def inlineMessage (ephemeral : Cbor) : DesiredState :=
  [(.unsigned 1, .bytes smallHash), (.unsigned 3, ephemeral), (.unsigned 5, .bytes [1])]

theorem rejected_message_stores_program : Keyed smallGateway ∧
      ¬AllOrNothing smallConnector (fun _ => none) "n" (inlineMessage (.bytes (List.replicate 32 5))) smallGateway := by
  refine ⟨smallGateway_keyed, fun whole => ?_⟩
  unfold AllOrNothing at whole
  have rejected : ((applyNodeDesiredState smallConnector (fun _ => none) "n"
      (inlineMessage (.bytes (List.replicate 32 5)))).alone smallGateway).1.toBool = false := by decide +kernel
  have stored : (((applyNodeDesiredState smallConnector (fun _ => none) "n"
      (inlineMessage (.bytes (List.replicate 32 5)))).alone smallGateway).2.programs smallHash).isSome := by decide +kernel
  revert whole rejected stored
  generalize (applyNodeDesiredState smallConnector (fun _ => none) "n"
    (inlineMessage (.bytes (List.replicate 32 5)))).alone smallGateway = run
  rcases run with ⟨e | _, after⟩
  · intro unchanged _ stored
    rw [show after.programs = smallGateway.programs from unchanged.programs] at stored
    cases stored
  · intro _ rejected
    cases rejected

theorem allOrNothing_iff_inline : AllOrNothing smallConnector (fun _ => none) "n" (inlineMessage .null) smallGateway := by
  refine (applyNodeDesiredState_allOrNothing_iff smallGateway_keyed).mpr ?_
  rintro node request record - read ⟨declaredHash, elf, declared, carried, ingested, -⟩ -
  cases read
  cases declared
  cases ingested
  refine ⟨⟨?_, ?_⟩, rfl⟩
  · rintro programHash ⟨⟩
    exact ⟨_, rfl, rfl, smallGateway.withProgram_self _⟩
  · rintro programHash ⟨⟩

end Sonde.Engine
