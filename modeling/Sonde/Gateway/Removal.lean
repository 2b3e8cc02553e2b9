import Sonde.Gateway.Accesses

namespace Sonde.Engine
open Lib Sonde.Gateway Task

def Access.Registers (n : String) : Access → Prop
  | .insertNodeIfNotExists record => n = record.nodeId
  | .registerNode record => n = record.nodeId
  | _ => False

def Unregistered (n : String) : Operations → List Nat → Prop
  | _, [] => True
  | p, i :: schedule =>
    (∀ label, p.label i = some label → ¬label.access.Registers n) ∧ Unregistered n (p.step i) schedule

variable {n : String} {g g' : Gateway} {label : Label}

theorem outcome_keyed {nodeId : String} {before : Option NodeRecord}
    (keyed : ∀ record, before = some record → record.nodeId = nodeId) (access : Access) (record : NodeRecord)
    (found : access.outcome nodeId before = some record) : record.nodeId = nodeId := by
  cases access with
  | other => exact keyed record found
  | removeSession id => exact keyed record found
  | upsertNode snapshot updates =>
    simp only [Access.outcome] at found
    split at found
    · rename_i here
      cases found
      rw [updates_nodeId, here]
    · exact keyed record found
  | updateNodeWakeMetadata id firmwareAbiVersion firmwareVersion =>
    simp only [Access.outcome] at found
    split at found
    · obtain ⟨old, stored, rfl⟩ := Option.map_eq_some_iff.mp found
      exact keyed old stored
    · exact keyed record found
  | reconcileCurrentProgramHash id programHash =>
    simp only [Access.outcome] at found
    split at found
    · obtain ⟨old, stored, rfl⟩ := Option.map_eq_some_iff.mp found
      rw [reconcileCurrentProgramHash, apply_ite NodeRecord.nodeId, ite_self]
      exact keyed old stored
    · exact keyed record found
  | insertNodeIfNotExists new =>
    simp only [Access.outcome] at found
    split at found
    · rename_i here
      cases before with
      | none =>
        cases found
        exact here.symm
      | some old => exact keyed record found
    · exact keyed record found
  | registerNode new =>
    simp only [Access.outcome] at found
    split at found
    · rename_i here
      cases found
      exact here.symm
    · exact keyed record found
  | deleteNode id =>
    simp only [Access.outcome] at found
    split at found
    · cases found
    · exact keyed record found

theorem Faithful.keyed (step : Faithful g label g') (keyed : Keyed g) : Keyed g' := by
  intro nodeId record found
  rw [step.records] at found
  exact outcome_keyed (keyed nodeId) label.access record found

theorem Apart.absent (apart : Apart n g label g') (absent : Absent n g) (unregistered : ¬label.access.Registers n) :
    Absent n g' := by
  refine ⟨apart.1.keyed absent.keyed, ?_⟩
  rw [apart.1.records, absent.absent]
  obtain ⟨faithful, other⟩ := apart
  obtain ⟨holds, access⟩ := label
  cases access with
  | upsertNode snapshot updates =>
    have apart : n ≠ snapshot.nodeId := fun here => other (here ▸ faithful.owner snapshot.nodeId rfl)
    exact if_neg apart
  | insertNodeIfNotExists record => exact if_neg unregistered
  | registerNode record => exact if_neg unregistered
  | other => rfl
  | removeSession nodeId => rfl
  | updateNodeWakeMetadata nodeId firmwareAbiVersion firmwareVersion => exact ite_self none
  | reconcileCurrentProgramHash nodeId programHash => exact ite_self none
  | deleteNode nodeId => exact ite_self none

def clearing (n : String) : Task Gateway Label Unit Unit :=
  .step ⟨none, .removeSession n⟩ (fun g => { g with sessionManager := g.sessionManager.removeSession n })
    fun _ => .done (.ok ())

def deleting (n : String) : Task Gateway Label Unit Unit :=
  .step ⟨none, .deleteNode n⟩ (fun g => { g with nodes := g.nodes.erase n }) fun _ => clearing n

inductive Stage (faults : AdminFaults) (n : String) : Task Gateway Label Unit Unit → Prop
  | checking : Stage faults n (removeNode faults n).forget
  | deleting : Stage faults n (deleting n)
  | clearing : Stage faults n (clearing n)
  | returned (result : Except Unit Unit) : Stage faults n (.done result)

theorem removeNode_forget (faults : AdminFaults) (n : String) : (removeNode faults n).forget =
      match faults .getNode with
      | some _ => .done (.ok ())
      | none => .step ⟨none, .other⟩ (fun g => g) fun g =>
        match g.nodes.lookup n with
        | none => .done (.ok ())
        | some _ =>
          match faults .deleteNode with
          | some _ => .done (.ok ())
          | none => deleting n := by
  unfold removeNode getNode storageCall
  cases faults .getNode with
  | some e => rfl
  | none =>
    refine congrArg (step _ _) (funext fun g => ?_)
    dsimp only [Program.read]
    cases g.nodes.lookup n with
    | none => rfl
    | some record =>
      cases faults .deleteNode with
      | some e => rfl
      | none => rfl

variable {t : Task Gateway Label Unit Unit}

theorem Stage.next {faults : AdminFaults} {n : String} (stage : Stage faults n t)
    {label : Label} {effect : Gateway → Gateway} {next : Gateway → Task Gateway Label Unit Unit}
    (shape : t = .step label effect next) (g : Gateway) : Stage faults n (next g) := by
  cases stage with
  | checking =>
    rw [removeNode_forget] at shape
    split at shape
    · cases shape
    · cases shape
      dsimp only
      split
      · exact .returned _
      · split
        · exact .returned _
        · exact .deleting
  | deleting =>
    cases shape
    exact .clearing
  | clearing =>
    cases shape
    exact .returned _
  | returned result => cases shape

theorem Stage.deletes {faults : AdminFaults} {n : String} (stage : Stage faults n t)
    (label : t.head = some ⟨none, .deleteNode n⟩) : t = Engine.deleting n := by
  cases stage with
  | checking =>
    rw [removeNode_forget] at label
    split at label
    · cases label
    · cases label
  | deleting => rfl
  | clearing => cases label
  | returned result => cases label

/-! ## Runs -/

structure Sound (p : Operations) : Prop where
  keyed : Keyed p.state
  disciplined : ∀ t ∈ p.tasks, Disciplined t

structure Gone (n : String) (r : Nat) (p : Operations) : Prop where
  absent : Absent n p.state
  apart : ∀ t ∈ p.tasks, t.Under (Absent n) (Apart n) fun _ => True
  session : p.tasks[r]? = some (clearing n) ∨ p.state.sessionManager.sessions n = none

variable {faults : AdminFaults} {r : Nat} {p : Operations}

theorem started_sound {g : Gateway} (keyed : Keyed g) (operations : List Operation) : Sound (started g operations) := by
  refine ⟨keyed, fun t member => ?_⟩
  obtain ⟨operation, -, rfl⟩ := List.mem_map.mp member
  exact operation.disciplined

theorem Sound.step (sound : Sound p) (i : Nat) : Sound (p.step i) := by
  refine ⟨?_, Pool.step_all (fun label effect next g disciplined => ?_) sound.disciplined i⟩
  · rcases Pool.step_under (fun t member => (sound.disciplined t member).faithful) trivial i with
      ⟨-, same⟩ | ⟨label, -, step, -⟩
    · rw [same]
      exact sound.keyed
    · exact step.keyed sound.keyed
  · exact ⟨(disciplined.faithful g trivial).2 trivial, fun n => (disciplined.settled n).2 g⟩

theorem Sound.run (sound : Sound p) (schedule : List Nat) : Sound (p.run schedule) := by
  induction schedule generalizing p with
  | nil => exact sound
  | cons i schedule ih => exact ih (sound.step i)

theorem run_stage (found : p.tasks[r]? = some t) (stage : Stage faults n t)
    (schedule : List Nat) : ∃ u, (p.run schedule).tasks[r]? = some u ∧ Stage faults n u := by
  induction schedule generalizing p t with
  | nil => exact ⟨t, found, stage⟩
  | cons i schedule ih =>
    rcases Pool.step_task found i with same | ⟨label, effect, next, -, shape, -, found⟩
    · exact ih same stage
    · exact ih found (stage.next shape p.state)

theorem Disciplined.under (disciplined : Disciplined t) (free : ∀ label, t.head = some label → label.holds ≠ some n) :
    t.Under (Absent n) (Apart n) fun _ => True := by
  cases t with
  | done result => exact fun _ _ => trivial
  | step label effect next => exact (disciplined.settled n).1 (free label rfl)

theorem Gone.deletes (sound : Sound p) (deletes : p.tasks[r]? = some (deleting n))
    (idle : ∀ i label, p.label i = some label → label.holds ≠ some n) : Gone n r (p.step r) := by
  have after := sound.step r
  have step : p.step r = ⟨{ p.state with nodes := p.state.nodes.erase n }, p.tasks.set r (clearing n)⟩ := by
    unfold Pool.step
    rw [deletes]
    rfl
  have cleared : (p.step r).tasks[r]? = some (clearing n) := by
    rw [step]
    exact List.getElem?_set_self (List.getElem?_eq_some_iff.mp deletes).1
  refine ⟨⟨after.keyed, ?_⟩, fun t member => ?_, .inl cleared⟩
  · rw [step]
    exact AList.lookup_erase ..
  · refine (after.disciplined t member).under fun label next => ?_
    rw [step] at member
    rcases List.mem_or_eq_of_mem_set member with old | rfl
    · obtain ⟨i, found⟩ := List.mem_iff_getElem?.mp old
      exact idle i label (by rw [Pool.label, found]; exact next)
    · cases next
      simp

theorem Gone.step (gone : Gone n r p) (i : Nat)
    (unregistered : ∀ label, p.label i = some label → ¬label.access.Registers n) : Gone n r (p.step i) := by
  rcases Pool.step_under gone.apart gone.absent i with ⟨-, same⟩ | ⟨label, next, apart, rest⟩
  · rwa [same]
  have absent := apart.absent gone.absent (unregistered label next)
  refine ⟨absent, rest absent, ?_⟩
  rcases gone.session with waiting | ended
  · rcases Pool.step_task waiting i with same | ⟨_, _, _, -, shape, step, -⟩
    · exact .inl same
    · cases shape
      rw [step]
      exact .inr (Function.update_self ..)
  · rcases apart.1.sessions n apart.2 with same | ⟨-, removed⟩
    · exact .inr (same.trans ended)
    · exact .inr removed

theorem Gone.run (gone : Gone n r p) {schedule : List Nat} (unregistered : Unregistered n p schedule) :
    Gone n r (p.run schedule) := by
  induction schedule generalizing p with
  | nil => exact gone
  | cons i schedule ih => exact ih (gone.step i unregistered.1) unregistered.2

theorem removed_stays_removed (g : Gateway) (keyed : Keyed g) (operations : List Operation) (faults : AdminFaults)
    (n : String) (r : Nat) (removes : operations[r]? = some (.removeNode faults n)) (earlier later : List Nat)
    (deletes : ((started g operations).run earlier).label r = some ⟨none, .deleteNode n⟩)
    (idle : ∀ i label, ((started g operations).run earlier).label i = some label → label.holds ≠ some n)
    (unregistered : Unregistered n ((started g operations).run (earlier ++ [r])) later)
    (returned : ((started g operations).run (earlier ++ [r] ++ later)).label r = none) :
    ((started g operations).run (earlier ++ [r] ++ later)).state.nodes.lookup n = none ∧
    ((started g operations).run (earlier ++ [r] ++ later)).state.sessionManager.getSession n = none := by
  have split : (started g operations).run (earlier ++ [r]) = ((started g operations).run earlier).step r := by
    simp [Pool.run, List.foldl_append]
  have whole : (started g operations).run (earlier ++ [r] ++ later) =
      (((started g operations).run earlier).step r).run later := by
    simp [Pool.run, List.foldl_append]
  have present : (started g operations).tasks[r]? = some (removeNode faults n).forget := by
    simp only [started, List.getElem?_map, removes]
    rfl
  obtain ⟨t, found, stage⟩ := run_stage present .checking earlier
  have stage := stage.deletes (by rwa [Pool.label, found] at deletes)
  rw [split] at unregistered
  rw [whole] at returned ⊢
  have gone := (Gone.deletes ((started_sound keyed operations).run earlier) (stage ▸ found) idle).run unregistered
  refine ⟨gone.absent.absent, ?_⟩
  rcases gone.session with waiting | ended
  · rw [Pool.label, waiting] at returned
    cases returned
  · exact ended

def smallRemove : Operation := .removeNode (fun _ => none) "n"

def ackAndRemove : Operations := started transferGateway [smallAck, smallRemove]

def wakeAndRemove : Operations := started transferGateway [.frame plainLib smallInputs (smallWake 2), smallRemove]

theorem removed_stays_removed_serially : (ackAndRemove.run [0, 0, 0, 0, 0, 0, 1, 1, 1]).state.nodes.lookup "n" = none ∧
    (ackAndRemove.run [0, 0, 0, 0, 0, 0, 1, 1, 1]).state.sessionManager.getSession "n" = none := by
  refine removed_stays_removed transferGateway smallGateway_keyed [smallAck, smallRemove] (fun _ => none) "n" 1 rfl
    [0, 0, 0, 0, 0, 0, 1] [1] rfl (fun i label next => ?_) ⟨fun label next => ?_, trivial⟩ rfl
  · match i with
    | 0 => cases next
    | 1 =>
      cases next
      simp
    | i + 2 => cases next
  · cases next
    exact id

theorem removed_node_returns :
    ((ackAndRemove.run [0, 0, 0, 1, 1, 1, 0, 0, 0]).tasks.map fun t => t.head.isNone) = [true, true] ∧
    (ackAndRemove.run [0, 0, 0, 1, 1, 1]).state.nodes.lookup "n" = none ∧
    ((ackAndRemove.run [0, 0, 0, 1, 1, 1, 0, 0, 0]).state.nodes.lookup "n").isSome ∧
    ((wakeAndRemove.run ([0, 1, 1, 1] ++ List.replicate 12 0)).tasks.map fun t => t.head.isNone) = [true, true] ∧
    ((wakeAndRemove.run [0, 1, 1, 1]).state.sessionManager.getSession "n").isNone ∧
    ((wakeAndRemove.run ([0, 1, 1, 1] ++ List.replicate 12 0)).state.sessionManager.getSession "n").isSome := by
  all_goals decide +kernel

end Sonde.Engine
