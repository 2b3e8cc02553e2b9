import Sonde.Gateway.Accesses

namespace Sonde.Engine
open Lib Sonde.Gateway FieldUpdate

namespace FieldUpdate

def assigned : FieldUpdate → Option (Option Bytes)
  | .assignedProgramHash programHash => some programHash
  | _ => none

def desired : FieldUpdate → Option (Option Nat)
  | .desiredScheduleIntervalS intervalS => some intervalS
  | _ => none

def schedule : FieldUpdate → Option Nat
  | .scheduleIntervalS intervalS => some intervalS
  | _ => none

def current : FieldUpdate → Option (Option Bytes)
  | .currentProgramHash programHash => some (some programHash)
  | _ => none

def abiVersion : FieldUpdate → Option (Option Nat)
  | .firmwareMetadata firmwareAbiVersion _ => some (some firmwareAbiVersion)
  | _ => none

def version : FieldUpdate → Option (Option String)
  | .firmwareMetadata _ firmwareVersion => some (some firmwareVersion)
  | _ => none

end FieldUpdate

def lastSet {α : Type} (field : FieldUpdate → Option α) (initial : α) (updates : List FieldUpdate) : α :=
  updates.foldl (fun value update => (field update).getD value) initial

def reflected (initial : NodeRecord) (updates : List FieldUpdate) : NodeRecord :=
  { initial with
    assignedProgramHash := lastSet assigned initial.assignedProgramHash updates
    desiredScheduleIntervalS := lastSet desired initial.desiredScheduleIntervalS updates
    scheduleIntervalS := lastSet schedule initial.scheduleIntervalS updates
    currentProgramHash := lastSet current initial.currentProgramHash updates
    firmwareAbiVersion := lastSet abiVersion initial.firmwareAbiVersion updates
    firmwareVersion := lastSet version initial.firmwareVersion updates }

theorem foldl_apply (initial : NodeRecord) (updates : List FieldUpdate) :
    updates.foldl apply initial = reflected initial updates := by
  induction updates generalizing initial with
  | nil => rfl
  | cons update updates ih =>
    rw [List.foldl_cons, ih]
    cases update <;> rfl

/-! ## Runs -/

def Access.updates (n : String) (stored : NodeRecord) : Access → List FieldUpdate
  | .upsertNode snapshot updates => if n = snapshot.nodeId then updates else []
  | .updateNodeWakeMetadata nodeId firmwareAbiVersion firmwareVersion =>
    if n = nodeId then [.firmwareMetadata firmwareAbiVersion firmwareVersion] else []
  | .reconcileCurrentProgramHash nodeId programHash =>
    if n = nodeId ∧ stored.assignedProgramHash = some programHash then [.currentProgramHash programHash] else []
  | _ => []

/-- An operation that writes a whole record of `n` finds the fields which it does not set as it has read them. -/
def Fresh (n : String) (stored : NodeRecord) : Access → Prop
  | .upsertNode snapshot updates => n = snapshot.nodeId → reflected snapshot updates = reflected stored updates
  | .registerNode record => n = record.nodeId → record = stored
  | .deleteNode nodeId => n ≠ nodeId
  | _ => True

def stepUpdates (n : String) (p : Operations) (i : Nat) : List FieldUpdate :=
  match p.label i, p.state.nodes.lookup n with
  | some label, some stored => label.access.updates n stored
  | _, _ => []

def updatesOf (n : String) : Operations → List Nat → List FieldUpdate
  | _, [] => []
  | p, i :: schedule => stepUpdates n p i ++ updatesOf n (p.step i) schedule

def AllFresh (n : String) : Operations → List Nat → Prop
  | _, [] => True
  | p, i :: schedule =>
    (∀ label stored, p.label i = some label → p.state.nodes.lookup n = some stored → Fresh n stored label.access) ∧
      AllFresh n (p.step i) schedule

theorem outcome_updates (n : String) (stored : NodeRecord) (access : Access) :
    access.outcome n (some stored) = some (reflected stored (access.updates n stored)) ↔ Fresh n stored access := by
  have none_set : reflected stored [] = stored := rfl
  unfold Access.outcome Access.updates Fresh
  cases access with
  | other => simp [none_set]
  | removeSession nodeId => simp [none_set]
  | insertNodeIfNotExists record => simp [none_set]
  | upsertNode snapshot updates =>
    by_cases here : n = snapshot.nodeId
    · simp [here, foldl_apply]
    · simp [here, none_set]
  | updateNodeWakeMetadata nodeId firmwareAbiVersion firmwareVersion =>
    by_cases here : n = nodeId
    · simp [here, ← foldl_apply]
    · simp [here, none_set]
  | reconcileCurrentProgramHash nodeId programHash =>
    by_cases here : n = nodeId
    · by_cases assigned : stored.assignedProgramHash = some programHash
      · simp [here, assigned, reconcileCurrentProgramHash, ← foldl_apply,
          apply]
      · simp [here, assigned, reconcileCurrentProgramHash, none_set]
    · simp [here, none_set]
  | registerNode record =>
    by_cases here : n = record.nodeId
    · simp [here, none_set]
    · simp [here, none_set]
  | deleteNode nodeId =>
    by_cases here : n = nodeId
    · simp [here]
    · simp [here, none_set]

section
variable {n : String} {p : Operations} {stored : NodeRecord}

theorem reflected_append (initial : NodeRecord) (first second : List FieldUpdate) :
    reflected initial (first ++ second) = reflected (reflected initial first) second := by
  simp only [← foldl_apply, List.foldl_append]

variable (faithful : ∀ t ∈ p.tasks, t.Obeys Faithful)

include faithful in
theorem step_updates (present : p.state.nodes.lookup n = some stored)
    (i : Nat) : (p.step i).state.nodes.lookup n = some (reflected stored (stepUpdates n p i)) ↔
      ∀ label stored, p.label i = some label → p.state.nodes.lookup n = some stored → Fresh n stored label.access := by
  unfold stepUpdates
  rcases Task.Pool.step_under faithful trivial i with ⟨idle, same⟩ | ⟨label, next, step, -⟩
  · rw [same, idle, present]
    simp [reflected, lastSet]
  · rw [next, step.records, present]
    simpa using outcome_updates n stored label.access

include faithful in
theorem step_faithful (i : Nat) : ∀ t ∈ (p.step i).tasks, t.Obeys Faithful := by
  rcases Task.Pool.step_under faithful trivial i with ⟨-, same⟩ | ⟨label, -, -, rest⟩
  · rwa [same]
  · exact rest trivial

include faithful in
theorem run_updates (present : p.state.nodes.lookup n = some stored)
    (schedule : List Nat) : (∀ reached, reached <+: schedule →
      (p.run reached).state.nodes.lookup n = some (reflected stored (updatesOf n p reached))) ↔ AllFresh n p schedule := by
  induction schedule generalizing p stored with
  | nil =>
    simp only [List.prefix_nil, AllFresh, iff_true]
    rintro _ rfl
    exact present
  | cons i schedule ih =>
    rw [AllFresh, ← step_updates faithful present i]
    constructor
    · intro reflects
      have first := reflects [i] (by simp)
      rw [updatesOf, updatesOf, List.append_nil] at first
      refine ⟨first, (ih (step_faithful faithful i) first).mp fun reached within => ?_⟩
      have later := reflects (i :: reached) (List.cons_prefix_cons.mpr ⟨rfl, within⟩)
      rwa [updatesOf, reflected_append] at later
    · rintro ⟨first, rest⟩ reached within
      rcases List.prefix_cons_iff.mp within with rfl | ⟨later, rfl, inside⟩
      · exact present
      · rw [updatesOf, reflected_append]
        exact (ih (step_faithful faithful i) first).mpr rest later inside

end

theorem node_updates_kept_iff (g : Gateway) (operations : List Operation) (n : String) (initial : NodeRecord)
    (registered : g.nodes.lookup n = some initial) (schedule : List Nat) : (∀ reached, reached <+: schedule →
      ((started g operations).run reached).state.nodes.lookup n =
        some (reflected initial (updatesOf n (started g operations) reached))) ↔
      AllFresh n (started g operations) schedule := by
  refine run_updates (fun t member => ?_) registered schedule
  obtain ⟨operation, -, rfl⟩ := List.mem_map.mp member
  exact operation.disciplined.faithful

def smallAssign : Operation := .assignProgram (fun _ => none) "n" smallHash

def smallOperations : Operations := started transferGateway [smallAck, smallAssign]

theorem node_updates_kept_serially : transferGateway.nodes.lookup "n" = some smallNode ∧
    ((∀ reached, reached <+: [0, 0, 0, 0, 0, 0, 1, 1, 1] → (smallOperations.run reached).state.nodes.lookup "n" =
        some (reflected smallNode (updatesOf "n" smallOperations reached))) ↔
      AllFresh "n" smallOperations [0, 0, 0, 0, 0, 0, 1, 1, 1]) :=
  ⟨by decide +kernel, node_updates_kept_iff _ _ _ _ (by decide +kernel) _⟩

theorem program_ack_loses_assignment :
    ((smallOperations.run [0, 0, 0, 1, 1, 1, 0, 0, 0]).tasks.map fun t => t.head.isNone) = [true, true] ∧
    updatesOf "n" smallOperations [0, 0, 0, 1, 1, 1, 0, 0, 0] =
      [.assignedProgramHash (some smallHash), .currentProgramHash [9]] ∧
    ((smallOperations.run [0, 0, 0, 1, 1, 1, 0, 0, 0]).state.nodes.lookup "n").map (·.assignedProgramHash) = some none := by
  refine ⟨?_, ?_, ?_⟩
  · decide +kernel
  · decide +kernel
  · decide +kernel

end Sonde.Engine
