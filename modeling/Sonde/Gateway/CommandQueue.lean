import Sonde.Gateway.Engine

/-!
# Progress of the command queue

An ephemeral program that is missing stays at the head of its node's queue. `due` lists the programs that are delivered
nevertheless.
-/

namespace Sonde.Engine
open Lib Lib.Program Protocol Sonde.Gateway List Option

section
variable (programs : Bytes → Option ProgramRecord) (firmwareAbiVersion : Nat)

def deliverable (programHash : Bytes) : Bool :=
  (programs programHash).any fun program =>
    ¬abiMismatch program firmwareAbiVersion ∧ program.size ≤ maxEphemeralSize ∧
      (chunkCount program.image.length defaultChunkSize).isSome

def blocking (programHash : Bytes) : Bool :=
  (programs programHash).all fun program =>
    ¬abiMismatch program firmwareAbiVersion ∧ program.size ≤ maxEphemeralSize ∧
      (chunkCount program.image.length defaultChunkSize).isNone

def ephemerals (cmds : List PendingCommand) : List Bytes := cmds.filterMap ephemeralHash

def schedules (cmds : List PendingCommand) : List Nat := cmds.filterMap scheduleInterval

def due (programHashes : List Bytes) : List Bytes :=
  (programHashes.takeWhile fun h => ¬blocking programs firmwareAbiVersion h).filter
    (deliverable programs firmwareAbiVersion)

end

def ephemeralOf : CommandPayload → Option Bytes
  | .runEphemeral programHash _ _ _ => some programHash
  | _ => none

def scheduleOf : CommandPayload → Option Nat
  | .updateSchedule intervalS => some intervalS
  | _ => none

def isUpdate : CommandPayload → Bool
  | .updateProgram .. => true
  | _ => false

def OwnHash (programs : Bytes → Option ProgramRecord) : Prop :=
  ∀ programHash record, programs programHash = some record → record.hash = programHash

/-! ## One selection -/

variable {programHash : Bytes} {command : CommandPayload}

section
variable {programs : Bytes → Option ProgramRecord} {abi : Nat} {cmds : List PendingCommand} {before : List PendingCommand}

section
variable {α : Type} {kind : PendingCommand → Option α} {a : α} {command : PendingCommand}

theorem first_found (found : cmds.findSome? kind = some a) : ∃ before command after,
    cmds = before ++ command :: after ∧ kind command = some a ∧ before.filterMap kind = [] := by
  obtain ⟨before, command, after, split, here, none⟩ := findSome?_eq_some_iff.mp found
  exact ⟨before, command, after, split, here, filterMap_eq_nil_iff.mpr none⟩

theorem filterMap_first (none : before.filterMap kind = []) (here : kind command = some a) (after : List PendingCommand) :
    (before ++ command :: after).filterMap kind = a :: (before ++ after).filterMap kind := by
  rw [filterMap_append, filterMap_append, none, filterMap_cons_some here]
  rfl

theorem filterMap_passed (here : kind command = none) (after : List PendingCommand) :
    (before ++ command :: after).filterMap kind = (before ++ after).filterMap kind := by
  rw [filterMap_append, filterMap_append, filterMap_cons_none here]

end

theorem due_cons (programHash : Bytes) (later : List Bytes) : due programs abi (programHash :: later) =
      if blocking programs abi programHash then []
      else if deliverable programs abi programHash then programHash :: due programs abi later
      else due programs abi later := by
  unfold due
  rw [takeWhile_cons]
  cases blocking programs abi programHash with
  | true => rfl
  | false => exact filter_cons

theorem due_filter (passed : blocking programs abi programHash = false)
    (useless : deliverable programs abi programHash = false) (programHashes : List Bytes) :
    due programs abi (programHashes.filter (· ≠ programHash)) = due programs abi programHashes := by
  induction programHashes with
  | nil => rfl
  | cons first later ih =>
    by_cases same : first = programHash
    · subst same
      rw [filter_cons_of_neg (by simp), ih, due_cons, passed, useless]
      rfl
    · rw [filter_cons_of_pos (by simpa using same), due_cons, due_cons, ih]

structure Delivers (programs : Bytes → Option ProgramRecord) (firmwareAbiVersion : Nat) (command : Option CommandPayload)
    (cmds cmds' : List PendingCommand) : Prop where
  ephemerals : due programs firmwareAbiVersion (ephemerals cmds) =
    (command.bind ephemeralOf).toList ++ due programs firmwareAbiVersion (ephemerals cmds')
  schedules : schedules cmds = (command.bind scheduleOf).toList ++ schedules cmds'
  reboots : cmds.count .reboot = command.toList.count .reboot + cmds'.count .reboot
  shorter : cmds'.length ≤ cmds.length

theorem Delivers.refl (cmds : List PendingCommand) : Delivers programs abi none cmds cmds :=
  ⟨rfl, rfl, (Nat.zero_add _).symm, le_rfl⟩

theorem erase_first_ephemeral (none : ephemerals before = []) (programHash : Bytes) (after : List PendingCommand) :
    (before ++ .runEphemeral programHash :: after).eraseP (· = .runEphemeral programHash) = before ++ after := by
  rw [eraseP_append_right, eraseP_cons_of_pos (by simp)]
  intro command member same
  rw [of_decide_eq_true same] at member
  have := filterMap_eq_nil_iff.mp none _ member
  cases this

theorem delivers_first {after : List PendingCommand} {command : Option CommandPayload}
    (none : ephemerals before = []) (schedule : command.bind scheduleOf = Option.none)
    (reboot : command.toList.count .reboot = 0)
    (counted : due programs abi (programHash :: ephemerals (before ++ after)) =
      (command.bind ephemeralOf).toList ++ due programs abi (ephemerals (before ++ after))) :
    Delivers programs abi command (before ++ .runEphemeral programHash :: after) (before ++ after) := by
  refine ⟨?_, ?_, ?_, ?_⟩
  · rw [ephemerals, filterMap_first none rfl]
    exact counted
  · rw [schedule]
    exact filterMap_passed rfl after
  · rw [reboot]
    simp
  · simp

theorem drop_delivers (passed : blocking programs abi programHash = false)
    (useless : deliverable programs abi programHash = false) (cmds : List PendingCommand) :
    Delivers programs abi none cmds (cmds.filter (· ≠ .runEphemeral programHash)) := by
  have left : ephemerals (cmds.filter (· ≠ .runEphemeral programHash)) = (ephemerals cmds).filter (· ≠ programHash) := by
    unfold ephemerals
    rw [filterMap_filter, filter_filterMap]
    refine filterMap_congr fun command _ => ?_
    cases command <;> simp [ephemeralHash, Option.filter]
  have kept : schedules (cmds.filter (· ≠ .runEphemeral programHash)) = schedules cmds := by
    unfold schedules
    rw [filterMap_filter]
    refine filterMap_congr fun command _ => ?_
    cases command <;> simp [scheduleInterval]
  refine ⟨?_, ?_, ?_, length_filter_le _ _⟩
  · rw [left, due_filter passed useless]
    rfl
  · rw [kept]
    rfl
  · simp [count_filter]

theorem selectEphemeral_cases (own : OwnHash programs) {after : List PendingCommand} (none : ephemerals before = []) :
    let cmds := before ++ .runEphemeral programHash :: after
    (selectEphemeral programs abi cmds = (Option.none, cmds) ∧ blocking programs abi programHash = true) ∨
    (blocking programs abi programHash = false ∧
      deliverable programs abi programHash = false ∧
      (selectEphemeral programs abi cmds = (Option.none, before ++ after) ∨
        selectEphemeral programs abi cmds = (Option.none, cmds.filter (· ≠ .runEphemeral programHash)))) ∨
    (blocking programs abi programHash = false ∧
      deliverable programs abi programHash = true ∧
      ∃ programSize chunkCount, selectEphemeral programs abi cmds =
        (some (.runEphemeral programHash programSize defaultChunkSize chunkCount), before ++ after)) := by
  have found : (before ++ .runEphemeral programHash :: after).findSome? ephemeralHash = some programHash := by
    rw [findSome?_append, findSome?_eq_none_iff.mpr (filterMap_eq_nil_iff.mp none)]
    rfl
  have erased := erase_first_ephemeral none programHash after
  simp only [selectEphemeral, found, blocking, deliverable]
  cases stored : programs programHash with
  | none => exact .inl ⟨rfl, rfl⟩
  | some program =>
    obtain rfl := own programHash program stored
    simp only [all_some, any_some, erased]
    by_cases mismatch : abiMismatch program abi = true
    · simp [mismatch]
    · by_cases large : program.size > maxEphemeralSize
      · simp [mismatch, large]
      · cases count : chunkCount program.image.length defaultChunkSize with
        | none => simp [mismatch, large, Nat.le_of_not_gt large]
        | some n => simp [mismatch, large, Nat.le_of_not_gt large]

def EphemeralStays (programs : Bytes → Option ProgramRecord) (firmwareAbiVersion : Nat) (cmds : List PendingCommand) : Prop :=
  ∀ programHash, cmds.findSome? ephemeralHash = some programHash → blocking programs firmwareAbiVersion programHash = true

theorem selectEphemeral_delivers (own : OwnHash programs) (abi : Nat) (cmds : List PendingCommand) :
    Delivers programs abi (selectEphemeral programs abi cmds).1 cmds (selectEphemeral programs abi cmds).2 ∧
    (EphemeralStays programs abi cmds ∧ selectEphemeral programs abi cmds = (none, cmds) ∧
        due programs abi (ephemerals cmds) = [] ∨
      ¬EphemeralStays programs abi cmds ∧ (selectEphemeral programs abi cmds).2.length < cmds.length) := by
  cases found : cmds.findSome? ephemeralHash with
  | none =>
    have stays : selectEphemeral programs abi cmds = (none, cmds) := by
      unfold selectEphemeral
      rw [found]
    rw [stays]
    refine ⟨Delivers.refl cmds, .inl ⟨fun _ first => (by cases found.symm.trans first), rfl, ?_⟩⟩
    rw [show ephemerals cmds = [] from filterMap_eq_nil_iff.mpr (findSome?_eq_none_iff.mp found)]
    rfl
  | some programHash =>
    obtain ⟨before, command, after, rfl, here, none⟩ := first_found found
    cases command <;> cases here
    have shrinks : (before ++ after).length < (before ++ PendingCommand.runEphemeral programHash :: after).length := by
      simp
    have moves (passed : blocking programs abi programHash = false) :
        ¬EphemeralStays programs abi (before ++ .runEphemeral programHash :: after) := by
      intro stays
      rw [stays programHash found] at passed
      cases passed
    rcases selectEphemeral_cases own none with
      ⟨selected, stuck⟩ | ⟨passed, useless, selected | selected⟩ | ⟨passed, wanted, programSize, chunkCount, selected⟩
    · rw [selected]
      refine ⟨Delivers.refl _, .inl ⟨fun other first => ?_, rfl, ?_⟩⟩
      · cases found.symm.trans first
        exact stuck
      · rw [ephemerals, filterMap_first none rfl, due_cons, stuck, if_pos rfl]
    · rw [selected]
      refine ⟨delivers_first none rfl rfl ?_, .inr ⟨moves passed, shrinks⟩⟩
      rw [due_cons, passed, useless]
      rfl
    · rw [selected]
      refine ⟨drop_delivers passed useless _, .inr ⟨moves passed, ?_⟩⟩
      exact length_filter_lt_length_iff_exists.mpr ⟨.runEphemeral programHash, by simp, by simp⟩
    · rw [selected]
      refine ⟨delivers_first none rfl rfl ?_, .inr ⟨moves passed, shrinks⟩⟩
      rw [due_cons, passed, wanted]
      rfl

theorem selectEphemeral_stays (own : OwnHash programs) (stays : EphemeralStays programs abi cmds) :
    selectEphemeral programs abi cmds = (none, cmds) :=
  (selectEphemeral_delivers own abi cmds).2.elim (fun same => same.2.1) fun moves => absurd stays moves.1

structure Exhausted (programs : Bytes → Option ProgramRecord) (firmwareAbiVersion : Nat) (cmds : List PendingCommand) :
    Prop where
  ephemerals : due programs firmwareAbiVersion (ephemerals cmds) = []
  schedules : schedules cmds = []
  reboots : cmds.count .reboot = 0

variable (programs abi cmds) in
theorem selectQueued_delivers : Delivers programs abi (some (selectQueued cmds).1) cmds (selectQueued cmds).2 ∧
    ((selectQueued cmds).2.length < cmds.length ∨ schedules cmds = [] ∧ cmds.count .reboot = 0) := by
  unfold selectQueued
  cases found : cmds.findSome? scheduleInterval with
  | some intervalS =>
    obtain ⟨before, command, after, rfl, here, none⟩ := first_found found
    cases command <;> cases here
    have erased : (before ++ .updateSchedule intervalS :: after).eraseP (fun c => (scheduleInterval c).isSome) =
        before ++ after := by
      rw [eraseP_append_right, eraseP_cons_of_pos rfl]
      intro command member present
      rw [filterMap_eq_nil_iff.mp none command member] at present
      cases present
    rw [erased]
    refine ⟨⟨congrArg (due programs abi) (filterMap_passed rfl after), filterMap_first none rfl after, ?_, ?_⟩, .inl ?_⟩
    · simp
    · simp
    · simp
  | none =>
    dsimp only
    split
    · rename_i member
      obtain ⟨command, before, after, -, same, rfl, erased⟩ := exists_of_eraseP member (p := (· = .reboot)) (by simp)
      obtain rfl : command = .reboot := of_decide_eq_true same
      rw [erased]
      refine ⟨⟨congrArg (due programs abi) (filterMap_passed rfl after), filterMap_passed rfl after, ?_, ?_⟩, .inl ?_⟩
      · simp [Nat.add_assoc, Nat.add_comm 1]
      · simp
      · simp
    · rename_i absent
      refine ⟨⟨rfl, rfl, ?_, le_rfl⟩, .inr ⟨filterMap_eq_nil_iff.mpr (findSome?_eq_none_iff.mp found), ?_⟩⟩
      · simp
      · exact count_eq_zero_of_not_mem absent

variable {later : List PendingCommand}

theorem Delivers.exhausted {command : Option CommandPayload} (delivers : Delivers programs abi command cmds later)
    (exhausted : Exhausted programs abi cmds) : Exhausted programs abi later where
  ephemerals := (append_eq_nil_iff.mp (delivers.ephemerals.symm.trans exhausted.ephemerals)).2
  schedules := (append_eq_nil_iff.mp (delivers.schedules.symm.trans exhausted.schedules)).2
  reboots := (Nat.add_eq_zero_iff.mp (delivers.reboots.symm.trans exhausted.reboots)).2

theorem Exhausted.nil : Exhausted programs abi [] := ⟨rfl, rfl, rfl⟩

theorem Delivers.trans {command : Option CommandPayload} {last : List PendingCommand}
    (first : Delivers programs abi none cmds later) (second : Delivers programs abi command later last) :
    Delivers programs abi command cmds last where
  ephemerals := first.ephemerals.trans second.ephemerals
  schedules := first.schedules.trans second.schedules
  reboots := first.reboots.trans ((Nat.zero_add _).trans second.reboots)
  shorter := second.shorter.trans first.shorter

theorem selectEphemeral_kind (selected : selectEphemeral programs abi cmds = (some command, later)) :
    isUpdate command = false := by
  unfold selectEphemeral at selected
  repeat' split at selected
  all_goals cases selected
  rfl

theorem selectUpdate_kind {assigned : Bytes → Option ProgramRecord} {assignedHash : Option Bytes}
    {nodeProgramHash : Bytes} (selected : selectUpdate assigned assignedHash nodeProgramHash abi = some command) :
    isUpdate command = true ∧ assignedHash ≠ some nodeProgramHash := by
  obtain ⟨hash, rfl, rest⟩ := bind_eq_some_iff.mp selected
  split at rest
  · cases rest
  rename_i different
  obtain ⟨program, -, rest⟩ := bind_eq_some_iff.mp rest
  split at rest
  · cases rest
  obtain ⟨count, -, made⟩ := bind_eq_some_iff.mp rest
  cases made
  exact ⟨rfl, fun same => different (some.inj same)⟩

theorem selectQueued_kind (cmds : List PendingCommand) : isUpdate (selectQueued cmds).1 = false := by
  unfold selectQueued
  repeat' split
  all_goals rfl

theorem selectFrom_delivers (abi : Nat) (own : OwnHash programs)
    (assigned : Bytes → Option ProgramRecord) (assignedHash : Option Bytes) (nodeProgramHash : Bytes)
    (cmds : List PendingCommand) :
    let selected := selectFrom programs assigned assignedHash nodeProgramHash abi cmds
    Delivers programs abi (some selected.1) cmds selected.2 ∧
      (selected.2.length < cmds.length ∨ isUpdate selected.1 ∨ Exhausted programs abi cmds) ∧
      (isUpdate selected.1 → assignedHash ≠ some nodeProgramHash) := by
  obtain ⟨delivers, progress⟩ := selectEphemeral_delivers own abi cmds
  unfold selectFrom
  cases first : selectEphemeral programs abi cmds with
  | mk result later =>
    rw [first] at delivers progress
    cases result with
    | some command =>
      have kind := selectEphemeral_kind first
      refine ⟨delivers, .inl ?_, fun update => absurd update (by simp [kind])⟩
      rcases progress with ⟨-, same, -⟩ | ⟨-, shrinks⟩
      · cases same
      · exact shrinks
    | none =>
      cases update : selectUpdate assigned assignedHash nodeProgramHash abi with
      | some command =>
        obtain ⟨kind, different⟩ := selectUpdate_kind update
        refine ⟨delivers.trans ?_, .inr (.inl kind), fun _ => different⟩
        cases command with
        | updateProgram => exact ⟨rfl, rfl, by simp, le_rfl⟩
        | _ => cases kind
      | none =>
        obtain ⟨queued, left⟩ := selectQueued_delivers programs abi later
        refine ⟨delivers.trans queued, ?_, fun kind => absurd kind (by simp [selectQueued_kind])⟩
        rcases progress with ⟨-, same, nothing⟩ | ⟨-, shrinks⟩
        · cases same
          rcases left with shrinks | ⟨schedules, reboots⟩
          · exact .inl shrinks
          · exact .inr (.inr ⟨nothing, schedules, reboots⟩)
        · exact .inl (queued.shorter.trans_lt shrinks)

end

/-! ## Selections that take nothing -/

section
variable {programs assigned : Bytes → Option ProgramRecord} {abi : Nat} {assignedHash : Option Bytes}
  {nodeProgramHash : Bytes} {cmds : List PendingCommand}

variable (assigned assignedHash nodeProgramHash) in
def UpdateDue (firmwareAbiVersion : Nat) : Prop :=
  ∃ programHash program count, assignedHash = some programHash ∧ programHash ≠ nodeProgramHash ∧
    assigned programHash = some program ∧ abiMismatch program firmwareAbiVersion = false ∧
    chunkCount program.image.length defaultChunkSize = some count

theorem updateDue_iff : UpdateDue assigned assignedHash nodeProgramHash abi ↔
    (selectUpdate assigned assignedHash nodeProgramHash abi).isSome := by
  unfold UpdateDue selectUpdate
  cases assignedHash with
  | none => simp
  | some programHash =>
    by_cases same : programHash = nodeProgramHash
    · simp [same]
    cases stored : assigned programHash with
    | none => simp [same, stored]
    | some program =>
      cases mismatch : abiMismatch program abi with
      | true => simp [same, stored, mismatch]
      | false =>
        cases count : chunkCount program.image.length defaultChunkSize with
        | none => simp [same, stored, mismatch, count]
        | some n => simp [same, stored, mismatch, count]

def OnlyEphemeral (cmds : List PendingCommand) : Prop := schedules cmds = [] ∧ PendingCommand.reboot ∉ cmds

theorem selectQueued_only (only : OnlyEphemeral cmds) : selectQueued cmds = (.nop, cmds) := by
  have none : cmds.findSome? scheduleInterval = none := findSome?_eq_none_iff.mpr (filterMap_eq_nil_iff.mp only.1)
  unfold selectQueued
  rw [none]
  exact if_neg only.2

theorem selectQueued_stays_iff : (selectQueued cmds).2 = cmds ↔ OnlyEphemeral cmds := by
  constructor
  · intro same
    rcases (selectQueued_delivers (fun _ => none) 0 cmds).2 with shrinks | ⟨schedules, reboots⟩
    · rw [same] at shrinks
      exact absurd shrinks (lt_irrefl _)
    · exact ⟨schedules, count_eq_zero.mp reboots⟩
  · intro only
    rw [selectQueued_only only]

theorem selectFrom_of_stays (stays : selectEphemeral programs abi cmds = (none, cmds)) :
    selectFrom programs assigned assignedHash nodeProgramHash abi cmds =
      match selectUpdate assigned assignedHash nodeProgramHash abi with
      | some command => (command, cmds)
      | none => selectQueued cmds := by
  unfold selectFrom
  exact stays ▸ rfl

theorem selectFrom_shorter : (selectFrom programs assigned assignedHash nodeProgramHash abi cmds).2.length ≤
    (selectEphemeral programs abi cmds).2.length := by
  unfold selectFrom
  cases selectEphemeral programs abi cmds with
  | mk result later =>
    cases result with
    | some command => exact le_rfl
    | none =>
      cases selectUpdate assigned assignedHash nodeProgramHash abi with
      | some command => exact le_rfl
      | none => exact (selectQueued_delivers programs abi later).1.shorter

theorem selectFrom_stays_iff (own : OwnHash programs) :
    (selectFrom programs assigned assignedHash nodeProgramHash abi cmds).2 = cmds ↔ EphemeralStays programs abi cmds ∧
        (UpdateDue assigned assignedHash nodeProgramHash abi ∨ OnlyEphemeral cmds) := by
  rcases (selectEphemeral_delivers own abi cmds).2 with ⟨stays, same, -⟩ | ⟨moves, shrinks⟩
  · rw [selectFrom_of_stays same, updateDue_iff]
    cases selectUpdate assigned assignedHash nodeProgramHash abi with
    | some command => simp [stays]
    | none => simp [stays, selectQueued_stays_iff]
  · refine iff_of_false (fun same => ?_) fun both => moves both.1
    have shorter : (selectFrom programs assigned assignedHash nodeProgramHash abi cmds).2.length < cmds.length :=
      selectFrom_shorter.trans_lt shrinks
    rw [same] at shorter
    exact lt_irrefl _ shorter

theorem selectFrom_stays_nop (own : OwnHash programs) (stays : EphemeralStays programs abi cmds)
    (rest : UpdateDue assigned assignedHash nodeProgramHash abi ∨ OnlyEphemeral cmds) :
    (selectFrom programs assigned assignedHash nodeProgramHash abi cmds).1 = .nop ↔
      ¬UpdateDue assigned assignedHash nodeProgramHash abi := by
  have same := selectEphemeral_stays own stays
  rw [updateDue_iff] at rest ⊢
  rw [selectFrom_of_stays same]
  cases update : selectUpdate assigned assignedHash nodeProgramHash abi with
  | some command =>
    refine iff_of_false (fun nop => ?_) fun none => none rfl
    obtain ⟨kind, -⟩ := selectUpdate_kind update
    rw [show command = .nop from nop] at kind
    cases kind
  | none =>
    rw [update] at rest
    have only : OnlyEphemeral cmds := rest.resolve_left (by simp)
    exact iff_of_true (congrArg Prod.fst (selectQueued_only only)) (by simp)

end

/-! ## One WAKE after another -/

structure SelectCall (nodeId : String) where
  inputs : Inputs
  node : NodeRecord
  programHash : Bytes
  named : node.nodeId = nodeId
  answered : inputs.fault .ephemeralProgram = false ∧ inputs.fault .assignedProgram = false

section
variable {nodeId : String} (firmwareAbiVersion : Nat)

def SelectCall.select (call : SelectCall nodeId) : Processing CommandPayload :=
  selectCommand call.inputs call.node call.programHash firmwareAbiVersion

def selectAll : List (SelectCall nodeId) → Processing (List CommandPayload)
  | [] => pure []
  | call :: calls => do
    let command ← call.select firmwareAbiVersion
    let later ← selectAll calls
    pure (command :: later)

/-- After an UPDATE_PROGRAM the node reports the program it is assigned. -/
def Obedient (g : Gateway) (calls : List (SelectCall nodeId)) : Prop :=
  ∀ earlier call later, calls = earlier ++ call :: later →
    ∀ returned g', selectAll firmwareAbiVersion earlier g = (.ok returned, g') → (∃ command ∈ returned, isUpdate command) →
      call.node.assignedProgramHash = some call.programHash

structure Delivered (g : Gateway) (nodeId : String) (returned : List CommandPayload) (g' : Gateway) : Prop where
  ephemerals : returned.filterMap ephemeralOf =
    (ephemerals (g.pendingCommands nodeId)).filter (deliverable g.programs firmwareAbiVersion)
  schedules : returned.filterMap scheduleOf = schedules (g.pendingCommands nodeId)
  reboots : returned.count .reboot = (g.pendingCommands nodeId).count .reboot
  others : ∀ other ≠ nodeId, g'.pendingCommands other = g.pendingCommands other

/-- No program that can be delivered stands behind one that cannot and stays. -/
def Unblocked (g : Gateway) (nodeId : String) : Prop :=
  ∀ before programHash after, ephemerals (g.pendingCommands nodeId) = before ++ programHash :: after →
    blocking g.programs firmwareAbiVersion programHash →
    ∀ later ∈ after, ¬deliverable g.programs firmwareAbiVersion later

end

variable {nodeId : String} {abi : Nat} {g : Gateway}

theorem select_run (abi : Nat) (g : Gateway) (call : SelectCall nodeId) :
    let selected := selectFrom g.programs g.programs call.node.assignedProgramHash call.programHash abi
      (g.pendingCommands nodeId)
    call.select abi g = (.ok selected.1,
      { g with pendingCommands := Function.update g.pendingCommands nodeId selected.2 }) := by
  obtain ⟨inputs, node, programHash, rfl, ephemeral, assigned⟩ := call
  have sees : visibleProgram inputs .ephemeralProgram g = g.programs := by
    funext h
    rw [visibleProgram, ephemeral]
    rfl
  have seesAssigned : visibleProgram inputs .assignedProgram g = g.programs := by
    funext h
    rw [visibleProgram, assigned]
    rfl
  simp only [SelectCall.select, selectCommand, sees, seesAssigned]

structure Selects (firmwareAbiVersion : Nat) (call : SelectCall nodeId) (g : Gateway) (command : CommandPayload)
    (g' : Gateway) : Prop where
  run : call.select firmwareAbiVersion g = (.ok command, g')
  delivers : Delivers g.programs firmwareAbiVersion (some command) (g.pendingCommands nodeId) (g'.pendingCommands nodeId)
  progress : (g'.pendingCommands nodeId).length < (g.pendingCommands nodeId).length ∨ isUpdate command ∨
    Exhausted g.programs firmwareAbiVersion (g.pendingCommands nodeId)
  update : isUpdate command → call.node.assignedProgramHash ≠ some call.programHash
  programs : g'.programs = g.programs
  others : ∀ other ≠ nodeId, g'.pendingCommands other = g.pendingCommands other

theorem select_selects (abi : Nat) (own : OwnHash g.programs) (call : SelectCall nodeId) :
    ∃ command g', Selects abi call g command g' := by
  obtain ⟨delivers, progress, update⟩ := selectFrom_delivers abi own g.programs
    call.node.assignedProgramHash call.programHash (g.pendingCommands nodeId)
  refine ⟨_, _, select_run abi g call, ?_, ?_, update, rfl, fun other apart => ?_⟩
  · dsimp only
    rwa [Function.update_self]
  · dsimp only
    rwa [Function.update_self]
  · exact Function.update_of_ne apart ..

variable {g₁ : Gateway}

theorem selectAll_cons (call : SelectCall nodeId) (calls : List (SelectCall nodeId))
    {g₂ : Gateway} {later : List CommandPayload} (first : call.select abi g = (.ok command, g₁))
    (rest : selectAll abi calls g₁ = (.ok later, g₂)) :
    selectAll abi (call :: calls) g = (.ok (command :: later), g₂) := by
  simp only [selectAll, bind_run, first, rest, pure_run]

theorem selectAll_ok (abi : Nat) (g : Gateway) (calls : List (SelectCall nodeId)) :
    ∃ returned g', selectAll abi calls g = (.ok returned, g') := by
  induction calls generalizing g with
  | nil => exact ⟨[], g, rfl⟩
  | cons call calls ih =>
    obtain ⟨later, g', rest⟩ := ih _
    exact ⟨_, g', selectAll_cons call calls (select_run abi g call) rest⟩

theorem Obedient.tail {call : SelectCall nodeId} {calls : List (SelectCall nodeId)}
    (obedient : Obedient abi g (call :: calls))
    (first : call.select abi g = (.ok command, g₁)) : Obedient abi g₁ calls := by
  intro earlier next later split returned g' run ⟨update, member, kind⟩
  exact obedient (call :: earlier) next later (congrArg (call :: ·) split) (command :: returned) g'
    (selectAll_cons call earlier first run) ⟨update, mem_cons_of_mem _ member, kind⟩

theorem Obedient.updated {call : SelectCall nodeId} {calls : List (SelectCall nodeId)}
    (obedient : Obedient abi g (call :: calls))
    (first : call.select abi g = (.ok command, g₁)) (update : isUpdate command)
    {next : SelectCall nodeId} (member : next ∈ calls) : next.node.assignedProgramHash = some next.programHash := by
  obtain ⟨earlier, later, rfl⟩ := append_of_mem member
  obtain ⟨returned, g', run⟩ := selectAll_ok abi g₁ earlier
  exact obedient (call :: earlier) next later rfl (command :: returned) g' (selectAll_cons call earlier first run)
    ⟨command, mem_cons_self, update⟩

theorem filterMap_cons_toList {α β : Type} (f : α → Option β) (a : α) (l : List α) :
    (a :: l).filterMap f = (f a).toList ++ l.filterMap f := by
  rw [filterMap_cons]
  cases f a <;> rfl

theorem selectAll_run (own : OwnHash g.programs) (updated : Bool) (calls : List (SelectCall nodeId))
    (obedient : Obedient abi g calls)
    (settled : updated → ∀ call ∈ calls, call.node.assignedProgramHash = some call.programHash)
    (enough : (g.pendingCommands nodeId).length + (if updated then 0 else 1) ≤ calls.length ∨
      Exhausted g.programs abi (g.pendingCommands nodeId)) :
    ∃ returned g', selectAll abi calls g = (.ok returned, g') ∧
      returned.filterMap ephemeralOf = due g.programs abi (ephemerals (g.pendingCommands nodeId)) ∧
      returned.filterMap scheduleOf = schedules (g.pendingCommands nodeId) ∧
      returned.count .reboot = (g.pendingCommands nodeId).count .reboot ∧
      ∀ other ≠ nodeId, g'.pendingCommands other = g.pendingCommands other := by
  -- The length of the queue, and the UPDATE_PROGRAM that may still come, bound the calls that are left.
  induction calls generalizing g updated with
  | nil =>
    have exhausted : Exhausted g.programs abi (g.pendingCommands nodeId) := by
      rcases enough with none | exhausted
      · rw [eq_nil_of_length_eq_zero (Nat.le_zero.mp (le_trans (Nat.le_add_right _ _) none))]
        exact Exhausted.nil
      · exact exhausted
    exact ⟨[], g, rfl, exhausted.ephemerals.symm, exhausted.schedules.symm, exhausted.reboots.symm, fun _ _ => rfl⟩
  | cons call calls ih =>
    obtain ⟨command, g₁, selects⟩ := select_selects abi own call
    have settledLater : (updated || isUpdate command) → ∀ next ∈ calls,
        next.node.assignedProgramHash = some next.programHash := by
      intro sent next member
      rcases Bool.or_eq_true_iff.mp sent with before | now
      · exact settled before next (mem_cons_of_mem _ member)
      · exact obedient.updated selects.run now member
    have enoughLater : (g₁.pendingCommands nodeId).length + (if updated || isUpdate command then 0 else 1) ≤
        calls.length ∨ Exhausted g₁.programs abi (g₁.pendingCommands nodeId) := by
      rw [selects.programs]
      rcases enough with bound | exhausted
      · have shorter := selects.delivers.shorter
        rcases selects.progress with shrinks | update | exhausted
        · cases updated <;> cases isUpdate command <;> simp at bound ⊢ <;> omega
        · have first : updated = false := by
            by_contra sent
            exact selects.update update (settled (by simpa using sent) call mem_cons_self)
          simp [first, update] at bound ⊢
          omega
        · exact .inr (selects.delivers.exhausted exhausted)
      · exact .inr (selects.delivers.exhausted exhausted)
    obtain ⟨later, g', rest, ephemerals, schedules, reboots, others⟩ := ih (selects.programs ▸ own)
      (updated || isUpdate command) (obedient.tail selects.run) settledLater enoughLater
    refine ⟨command :: later, g', selectAll_cons call calls selects.run rest, ?_, ?_, ?_, fun other apart => ?_⟩
    · rw [selects.delivers.ephemerals, ← selects.programs, ← ephemerals]
      exact filterMap_cons_toList ephemeralOf command later
    · rw [selects.delivers.schedules, ← schedules]
      exact filterMap_cons_toList scheduleOf command later
    · rw [selects.delivers.reboots, ← reboots, ← count_append]
      rfl
    · rw [others other apart, selects.others other apart]

theorem blocking_not_deliverable {programs : Bytes → Option ProgramRecord} (stuck : blocking programs abi programHash) :
    deliverable programs abi programHash = false := by
  unfold blocking at stuck
  unfold deliverable
  cases stored : programs programHash with
  | none => rfl
  | some program =>
    rw [stored] at stuck
    have conditions := of_decide_eq_true stuck
    simp [isNone_iff_eq_none.mp conditions.2.2]

theorem due_eq_iff {programs : Bytes → Option ProgramRecord} (programHashes : List Bytes) :
    due programs abi programHashes = programHashes.filter (deliverable programs abi) ↔
      ∀ before programHash after, programHashes = before ++ programHash :: after →
        blocking programs abi programHash → ∀ later ∈ after, ¬deliverable programs abi later := by
  induction programHashes with
  | nil => exact iff_of_true rfl fun before programHash after split => by simp at split
  | cons first rest ih =>
    rw [due_cons, filter_cons]
    by_cases stuck : blocking programs abi first
    · rw [if_pos stuck, blocking_not_deliverable stuck, if_neg Bool.false_ne_true]
      constructor
      · intro none before programHash after split _ later member
        refine filter_eq_nil_iff.mp none.symm later ?_
        cases before with
        | nil =>
          cases split
          exact member
        | cons b before =>
          cases split
          simp [member]
      · intro unblocked
        exact (filter_eq_nil_iff.mpr (unblocked [] first rest rfl stuck)).symm
    · have shift : (∀ before programHash after, first :: rest = before ++ programHash :: after →
          blocking programs abi programHash → ∀ later ∈ after, ¬deliverable programs abi later) ↔
          ∀ before programHash after, rest = before ++ programHash :: after →
            blocking programs abi programHash → ∀ later ∈ after, ¬deliverable programs abi later := by
        constructor
        · intro all before programHash after split
          exact all (first :: before) programHash after (congrArg (first :: ·) split)
        · intro all before programHash after split blocks
          cases before with
          | nil =>
            cases split
            exact absurd blocks stuck
          | cons b before =>
            cases split
            exact all before programHash after rfl blocks
      rw [if_neg stuck, shift, ← ih]
      split
      · exact cons_inj_right first
      · exact Iff.rfl

variable {nodeId : String} {firmwareAbiVersion : Nat} {g : Gateway}

theorem selectAll_delivered_iff (own : OwnHash g.programs) (calls : List (SelectCall nodeId))
    (enough : (g.pendingCommands nodeId).length < calls.length) (obedient : Obedient firmwareAbiVersion g calls) :
    (∃ returned g', selectAll firmwareAbiVersion calls g = (.ok returned, g') ∧
      Delivered firmwareAbiVersion g nodeId returned g') ↔ Unblocked firmwareAbiVersion g nodeId := by
  obtain ⟨returned, g', run, ephemerals, schedules, reboots, others⟩ := selectAll_run own false calls obedient
    (by rintro ⟨⟩) (.inl enough)
  rw [Unblocked, ← due_eq_iff, ← ephemerals]
  constructor
  · rintro ⟨returned', g'', run', delivered⟩
    cases run.symm.trans run'
    exact delivered.ephemerals
  · intro all
    exact ⟨returned, g', run, all, schedules, reboots, others⟩

def queueGateway (cmds : List PendingCommand) : Gateway :=
  { smallGateway with
    programs := fun programHash => if programHash = [6] then some ⟨[6], [1], 1, .ephemeral, none, none, none⟩ else none
    pendingCommands := fun _ => cmds }

theorem queueGateway_own (cmds : List PendingCommand) : OwnHash (queueGateway cmds).programs := by
  intro programHash record found
  rw [show (queueGateway cmds).programs programHash = if programHash = [6] then _ else _ from rfl] at found
  split at found
  · rename_i same
    cases found
    exact same.symm
  · cases found

def smallSelect : SelectCall "n" := ⟨smallInputs, { smallNode with assignedProgramHash := some [9] }, [9], rfl, rfl, rfl⟩

theorem smallSelect_obedient (g : Gateway) (n : Nat) : Obedient 1 g (replicate n smallSelect) := by
  intro earlier call later split _ _ _ _
  have member : call ∈ replicate n smallSelect := by
    rw [split]
    simp
  rw [eq_of_mem_replicate member]
  rfl

theorem missing_program_blocks : OwnHash (queueGateway [.runEphemeral [5], .runEphemeral [6]]).programs ∧
    Obedient 1 (queueGateway [.runEphemeral [5], .runEphemeral [6]]) (List.replicate 3 smallSelect) ∧
    ¬∃ returned g', selectAll 1 (List.replicate 3 smallSelect) (queueGateway [.runEphemeral [5], .runEphemeral [6]]) =
        (.ok returned, g') ∧ Delivered 1 (queueGateway [.runEphemeral [5], .runEphemeral [6]]) "n" returned g' := by
  refine ⟨queueGateway_own _, smallSelect_obedient _ _, ?_⟩
  rintro ⟨returned, g', run, delivered⟩
  cases run
  have all := delivered.ephemerals
  revert all
  decide +kernel

theorem selectAll_delivered_iff_present :
    ∃ returned g', selectAll 1 (List.replicate 3 smallSelect) (queueGateway [.runEphemeral [6], .reboot]) =
        (.ok returned, g') ∧ Delivered 1 (queueGateway [.runEphemeral [6], .reboot]) "n" returned g' := by
  refine (selectAll_delivered_iff (queueGateway_own _) (replicate 3 smallSelect) (by decide)
    (smallSelect_obedient _ _)).mpr ?_
  intro before programHash after split blocks later member
  have alone : [[6]] = before ++ programHash :: after := split
  cases before with
  | nil =>
    cases alone
    cases member
  | cons first before => simp at alone

end Sonde.Engine
