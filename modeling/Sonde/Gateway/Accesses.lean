import Sonde.Gateway.Admin
import Sonde.Gateway.FrameEffects

namespace Sonde.Engine
open Lib Lib.Program Protocol Sonde.Gateway
open Lib.Task (Under)

def Access.writer : Access → Option String
  | .upsertNode snapshot _ => some snapshot.nodeId
  | _ => none

/-- The step does to the records what its label says, and writes back the record it holds. It touches the session of
the node whose record the operation holds, or removes the one it names. -/
structure Faithful (g : Gateway) (label : Label) (g' : Gateway) : Prop where
  owner : ∀ nodeId, label.access.writer = some nodeId → label.holds = some nodeId
  records : ∀ nodeId, g'.nodes.lookup nodeId = label.access.outcome nodeId (g.nodes.lookup nodeId)
  sessions : ∀ nodeId, label.holds ≠ some nodeId →
    g'.sessionManager.sessions nodeId = g.sessionManager.sessions nodeId ∨
      (label.access = .removeSession nodeId ∧ g'.sessionManager.sessions nodeId = none)

def Honest (holds : Option String) (g : Gateway) (label : Label) (g' : Gateway) : Prop :=
  Faithful g label g' ∧ label.holds = holds

def Gateway.registry (g : Gateway) : Table String NodeRecord × SessionManager := (g.nodes, g.sessionManager)

variable {ε α β : Type} {holds : Option String} {G : Gateway → Label → Gateway → Prop}

theorem atomic_honest {access : Access} {m : Program Gateway ε α}
    (owner : ∀ nodeId, access.writer = some nodeId → holds = some nodeId)
    (records : ∀ g nodeId, (m g).2.nodes.lookup nodeId = access.outcome nodeId (g.nodes.lookup nodeId))
    (sessions : Fixes Gateway.sessionManager m) : (Task.atomic ⟨holds, access⟩ m).Obeys (Honest holds) :=
  .atomic (fun g _ => ⟨⟨owner, records g, fun _ _ => .inl (by rw [sessions g])⟩, rfl⟩) fun _ _ _ _ _ => trivial

theorem read_honest {m : Program Gateway ε α} (fixed : Fixes Gateway.registry m) :
    (Task.atomic ⟨holds, .other⟩ m).Obeys (Honest holds) :=
  atomic_honest (fun _ none => by cases none) (fun g _ => by rw [show (m g).2.nodes = g.nodes from congrArg Prod.fst (fixed g)]; rfl)
    (fixed.comp Prod.snd)

theorem orDiscard_obeys {a : Option α} : (Concurrent.orDiscard a).Obeys G := by
  cases a with
  | none => exact .stop
  | some a => exact .pure trivial

theorem bind_obeys {t : Task Gateway Label ε α} {f : α → Task Gateway Label ε β} (first : t.Obeys G)
    (second : ∀ a, (f a).Obeys G) : (t >>= f).Obeys G :=
  .bind first fun a _ => second a

theorem ite_obeys {c : Prop} [Decidable c] {t u : Task Gateway Label ε α} (yes : t.Obeys G) (no : u.Obeys G) :
    (if c then t else u).Obeys G :=
  .ite (fun _ => yes) fun _ => no

theorem honest_faithful {t : Task Gateway Label ε α} (honest : t.Obeys (Honest holds)) : t.Obeys Faithful :=
  .mono honest (fun _ free => free) (fun _ _ _ _ step => step.1) fun _ _ => trivial

theorem Effect.faithful {R : Prop} {C : CommandPayload → Prop} {holder : Option String} {access : Access}
    {g g' : Gateway} (effect : Effect R C holder g access g') : Faithful g ⟨holder, access⟩ g' := by
  have quiet {g' : Gateway} (same : g'.registry = g.registry) : Faithful g ⟨holder, .other⟩ g' := by
    refine ⟨(fun _ none => by cases none), fun nodeId => ?_, fun nodeId _ => .inl ?_⟩
    · rw [show g'.nodes = g.nodes from congrArg Prod.fst same]
      rfl
    · rw [show g'.sessionManager = g.sessionManager from congrArg Prod.snd same]
  cases effect with
  | aside same => exact quiet (Prod.ext (congrArg (·.1) same) (congrArg (·.2.2.1) same))
  | queue fewer => exact quiet rfl
  | reply nodeId entry kept => exact quiet rfl
  | sealing short commands => exact quiet rfl
  | session held same states =>
    refine ⟨(fun _ none => by cases none), fun _ => rfl, fun nodeId other => .inl ?_⟩
    refine (congrFun same nodeId).trans (Function.update_of_ne ?_ _ _)
    rintro rfl
    exact other held
  | record maker records =>
    refine ⟨fun nodeId writer => ?_, records, fun _ _ => .inl rfl⟩
    cases access with
    | upsertNode snapshot updates => exact maker.trans writer
    | _ => cases writer

theorem follows_honest {α : Type} {Q : α → Prop} {holder : Option String} {t : Steps α}
    (follows : Follows True (fun _ => True) (fun _ => True) holder Q t) : t.Obeys (Honest holder) := by
  refine .mono follows (fun _ free => free) ?_ fun _ _ => trivial
  rintro g ⟨holds, access⟩ g' - ⟨rfl, effect⟩
  exact ⟨effect.faithful, rfl⟩

variable {faults : AdminFaults}

theorem ofExcept_obeys {x : Except ε α} : (Task.ofExcept x : Task Gateway Label ε α).Obeys G := fun _ _ => trivial

theorem foundOr_obeys {missing : ε} {a : Option α} : (foundOr missing a).Obeys G := by
  cases a with
  | none => exact .stop
  | some a => exact .pure trivial

theorem storageCall_obeys {holds : Option String} {fault : Option StorageError} {failed : StorageError → ε}
    {access : Access} {m : Program Gateway ε α} (obeys : (Task.atomic ⟨holds, access⟩ m).Obeys G) :
    (storageCall holds fault failed access m).Obeys G := by
  cases fault with
  | none => exact obeys
  | some e => exact .stop

theorem upsert_honest {failed : StorageError → ε} {node written : NodeRecord} {updates : List FieldUpdate}
    (written_eq : written = updates.foldl FieldUpdate.apply node) :
    (storageCall (some node.nodeId) (faults .upsertNode) failed (.upsertNode node updates) (writeNode written)).Obeys
      (Honest (some node.nodeId)) := by
  refine storageCall_obeys (atomic_honest (fun _ writer => writer) (fun g id => ?_) fun _ => rfl)
  have inserted := insert_outcome g.nodes node updates id
  rwa [← written_eq, show node.nodeId = written.nodeId by rw [written_eq, updates_nodeId]] at inserted

def Keyed (g : Gateway) : Prop := g.nodes.ForAll fun nodeId record => record.nodeId = nodeId

theorem smallGateway_keyed : Keyed smallGateway := .insert .empty rfl

structure Absent (n : String) (g : Gateway) : Prop where
  keyed : Keyed g
  absent : g.nodes.lookup n = none

def Apart (n : String) (g : Gateway) (label : Label) (g' : Gateway) : Prop := Faithful g label g' ∧ label.holds ≠ some n

def Settled {ε α : Type} (n : String) (Q : α → Prop) (t : Task Gateway Label ε α) : Prop :=
  t.Guarded (fun label => label.holds ≠ some n) (Absent n) (Apart n) Q

structure Finds {ε α : Type} (t : Task Gateway Label ε α) (Q : String → α → Prop) : Prop where
  faithful : t.Obeys Faithful
  apart : ∀ n, t.Under (Absent n) (Apart n) (Q n)
  settled : ∀ n, Settled n (Q n) t

structure Disciplined {ε α : Type} (t : Task Gateway Label ε α) : Prop where
  faithful : t.Obeys Faithful
  settled : ∀ n, Settled n (fun _ => True) t

variable {n holder : String} {t u : Task Gateway Label ε α} {f : α → Task Gateway Label ε β} {Q : String → α → Prop}
    {R : String → β → Prop}

theorem unheld_apart (honest : t.Obeys (Honest none)) : t.Obeys (Apart n) := by
  refine honest.mono (fun _ free => free) (fun g label g' _ step => ⟨step.1, ?_⟩) fun _ _ => trivial
  rw [step.2]
  simp

theorem held_apart (honest : t.Obeys (Honest (some holder))) (other : holder ≠ n) : t.Obeys (Apart n) := by
  refine honest.mono (fun _ free => free) (fun g label g' _ step => ⟨step.1, ?_⟩) fun _ _ => trivial
  rw [step.2]
  simpa using other

theorem held_settled {P : α → Prop} (honest : t.Obeys (Honest (some holder))) (value : holder ≠ n → ∀ a, P a) :
    Settled n P t := by
  by_cases same : holder = n
  · refine .of_never (honest.mono (fun _ free => free) (fun _ _ _ _ step => ?_) fun _ _ => trivial)
    rw [step.2, same]
    simp
  · exact .of_under
      ((held_apart honest same).mono (fun _ free => free) (fun _ _ _ _ step => step) fun a _ => value same a)

theorem Finds.atomic {access : Access} {m : Program Gateway ε α}
    (honest : (Task.atomic ⟨none, access⟩ m).Obeys (Honest none))
    (value : ∀ n g, Absent n g → Absent n (m g).2 → ∀ a, (m g).1 = .ok a → Q n a) :
    Finds (Task.atomic ⟨none, access⟩ m) Q := by
  have apart (n : String) : (Task.atomic ⟨none, access⟩ m).Under (Absent n) (Apart n) (Q n) :=
    .atomic (fun g _ => ((unheld_apart honest) g trivial).1) (value n)
  exact ⟨honest_faithful honest, apart, fun n => .atomic fun _ => apart n⟩

theorem Finds.stop {e : ε} : Finds (.stop e) Q := ⟨.stop, fun _ => .stop, fun _ => trivial⟩

theorem Finds.orDiscard {a : Option α} : Finds (Concurrent.orDiscard a) fun _ b => a = some b := by
  cases a with
  | none => exact .stop
  | some a => exact ⟨.pure trivial, fun _ => .pure rfl, fun _ => trivial⟩

theorem Finds.bind (first : Finds t Q) (faithful : ∀ a, (f a).Obeys Faithful)
    (apart : ∀ n a, Q n a → (f a).Under (Absent n) (Apart n) (R n)) (settled : ∀ n a, Settled n (R n) (f a)) :
    Finds (t >>= f) R :=
  ⟨bind_obeys first.faithful faithful, fun n => .bind (first.apart n) (apart n),
    fun n => .bind (first.settled n) (apart n) (settled n)⟩

theorem Finds.andThen (first : Finds t Q) (second : ∀ a, Finds (f a) R) : Finds (t >>= f) R :=
  first.bind (fun a => (second a).faithful) (fun n a _ => (second a).apart n) fun n a => (second a).settled n

theorem Finds.ite {c : Prop} [Decidable c] (yes : Finds t Q) (no : Finds u Q) : Finds (if c then t else u) Q := by
  split
  · exact yes
  · exact no

theorem Disciplined.unheld (honest : t.Obeys (Honest none)) : Disciplined t :=
  ⟨honest_faithful honest, fun _ => .of_under (unheld_apart honest)⟩

theorem Disciplined.held {id : α → String} (finds : Finds t fun n a => id a ≠ n)
    (rest : ∀ a, (f a).Obeys (Honest (some (id a)))) : Disciplined (t >>= f) where
  faithful := bind_obeys finds.faithful fun a => honest_faithful (rest a)
  settled n := by
    refine .bind (finds.settled n) (fun a other => ?_) fun a => held_settled (rest a) fun _ _ => trivial
    exact (held_apart (rest a) other).mono (fun _ _ => trivial) (fun _ _ _ _ step => step) fun _ value => value

theorem Disciplined.ofExcept {x : Except ε α} (rest : ∀ a, Disciplined (f a)) : Disciplined (Task.ofExcept x >>= f) := by
  cases x with
  | ok a => exact rest a
  | error e => exact .unheld .stop

theorem Disciplined.orDiscard {γ : Type} {a : Option γ} {k : γ → Steps β} (rest : ∀ c, Disciplined (k c)) :
    Disciplined (Concurrent.orDiscard a >>= k) := by
  cases a with
  | none => exact .unheld .stop
  | some c => exact rest c

theorem Disciplined.ite {c : Prop} [Decidable c] (yes : Disciplined t) (no : Disciplined u) :
    Disciplined (if c then t else u) := by
  split
  · exact yes
  · exact no

theorem Disciplined.forget (disciplined : Disciplined t) : Disciplined t.forget :=
  ⟨.forget disciplined.faithful, fun n => .forget (disciplined.settled n)⟩

/-! ## What the operations read -/

theorem Absent.apart {g : Gateway} (absent : Absent n g) {nodeId : String} {record : NodeRecord}
    (found : g.nodes.lookup nodeId = some record) : record.nodeId ≠ n := by
  rintro rfl
  have key := absent.keyed nodeId record found
  rw [← key, absent.absent] at found
  cases found

theorem getNode_finds {ε : Type} (faults : AdminFaults) (failed : StorageError → ε) (missing : ε) (nodeId : String) :
    Finds (getNode faults failed missing nodeId) fun n record => record.nodeId ≠ n := by
  unfold getNode storageCall
  cases faults .getNode with
  | some e => exact .stop
  | none =>
    refine .bind (Q := fun n found => ∀ record, found = some record → record.nodeId ≠ n)
      (.atomic (read_honest (.read _)) ?_) (fun _ => foundOr_obeys) (fun n found apart => ?_) fun n found => ?_
    · intro n g absent _ found same record present
      cases same
      exact absent.apart present
    · cases found with
      | none => exact .stop
      | some record => exact .pure (apart record rfl)
    · cases found with
      | none => trivial
      | some record => trivial

theorem candidates_apart {g : Gateway} (absent : Absent n g) (keyHint : BitVec 16) :
    ∀ record ∈ nodesByKeyHint keyHint g, record.nodeId ≠ n := by
  intro record member
  obtain ⟨entry, stored, rfl⟩ := List.mem_map.mp (List.mem_of_mem_filter member)
  exact absent.apart (AList.mem_lookup_iff.mpr stored)

theorem openingNode_mem {lib : Libraries} {decoded : DecodedFrame} {candidates : List NodeRecord}
    {opened : NodeRecord × Bytes} (opens : openingNode lib decoded candidates = some opened) : opened.1 ∈ candidates := by
  obtain ⟨candidate, member, found⟩ := List.exists_of_findSome?_eq_some opens
  obtain ⟨payload, -, rfl⟩ := Option.map_eq_some_iff.mp found
  exact member

theorem tryRecoveryAuth_finds (lib : Libraries) (inputs : Inputs) (decoded : DecodedFrame) :
    Finds (Concurrent.tryRecoveryAuth lib inputs decoded) fun n authentic => authentic.1.nodeId ≠ n := by
  have lookup {α : Type} {m : Processing α} (fixed : Fixes Gateway.registry m) :
      Finds (Concurrent.call none m) fun _ _ => True := .atomic (read_honest fixed) fun _ _ _ _ _ _ => trivial
  refine (lookup (.read _)).andThen fun available => Finds.orDiscard.andThen fun keyId =>
    (lookup (.bind (guardFault_fixes _ _) fun _ => .read _)).andThen fun candidates =>
    Finds.orDiscard.andThen ?_
  rintro ⟨node, payload⟩
  have tail : (.onlyIf (inputs.fault .deletePendingRecovery = false) (Concurrent.call (some node.nodeId)
      (.update fun g => { g with
        pendingRecovery := g.pendingRecovery.filter fun row =>
          ¬(row.keyHint = decoded.header.keyHint ∧ row.nodeId = node.nodeId) })) : Steps Unit).Obeys
      (Honest (some node.nodeId)) := ite_obeys (read_honest fun _ => rfl) (.pure trivial)
  refine .ite .stop (.bind (Q := fun n _ => node.nodeId ≠ n) (.atomic
    (atomic_honest (fun _ none => by cases none) (fun g id => insert_lookup g.nodes node id) fun _ => rfl) ?_)
    (fun _ => bind_obeys (honest_faithful tail) fun _ => .pure trivial) (fun n _ other => ?_) fun n _ => ?_)
  · rintro n g - after _ - rfl
    have inserted := insert_lookup g.nodes node node.nodeId
    exact absurd (after.absent.symm.trans inserted) (by simp)
  · refine .bind ((held_apart tail other).mono (fun _ _ => trivial) (fun _ _ _ _ step => step) fun _ value => value)
      fun _ _ => .pure other
  · exact .bind (held_settled tail fun other _ => other) (fun _ other => .pure other) fun _ => trivial

theorem authenticateNode_finds (lib : Libraries) (inputs : Inputs) (decoded : DecodedFrame) :
    Finds (Concurrent.authenticateNode lib inputs decoded) fun n authentic => authentic.1.nodeId ≠ n := by
  have recovery := tryRecoveryAuth_finds lib inputs decoded
  refine .bind (Q := fun n candidates => ∀ record ∈ candidates, record.nodeId ≠ n)
    (.atomic (read_honest (.bind (guardFault_fixes _ _) fun _ => .read _)) ?_)
    (fun _ => ite_obeys recovery.faithful orDiscard_obeys) (fun n candidates apart => ?_) fun n candidates => ?_
  · intro n g absent _ candidates same
    unfold guardFault at same
    cases faulty : inputs.fault .nodesByKeyHint with
    | true => simp [faulty, bind_run, discard, stop_run] at same
    | false =>
      simp only [faulty, bind_run, pure_run, read_run, reduceCtorEq, if_false, Except.ok.injEq] at same
      exact same ▸ candidates_apart absent _
  · refine .ite (fun _ => recovery.apart n) fun _ => (Finds.orDiscard.apart n).mono (fun _ holds => holds)
      (fun _ _ _ _ step => step) fun opened opens => apart _ (openingNode_mem opens)
  · refine .ite (recovery.settled n) ?_
    cases openingNode lib decoded candidates with
    | none => trivial
    | some opened => trivial

variable (lib : ConnectorLibraries)

theorem validateProgramExists_honest (fault : Option StorageError)
    (nodeId context operation : String) (programHash : Bytes) :
    (validateProgramExists lib fault nodeId context operation programHash).Obeys (Honest (some nodeId)) :=
  bind_obeys ofExcept_obeys fun _ => bind_obeys (storageCall_obeys (read_honest (.read _))) fun _ => foundOr_obeys

theorem ifPresent_honest {α : Type} {a : Option α} {check : α → ConnectorTask Unit} {holds : Option String}
    (honest : ∀ b, (check b).Obeys (Honest holds)) : (ifPresent a check).Obeys (Honest holds) := by
  cases a with
  | none => exact .pure trivial
  | some b => exact honest b

variable (faults : AdminFaults) (nodeId : String)

theorem storeInlineProgram_honest (desiredState : DesiredState) (assignedProgramHash inlineElf : Option Bytes) :
    (storeInlineProgram lib faults nodeId desiredState assignedProgramHash inlineElf).Obeys (Honest (some nodeId)) := by
  unfold storeInlineProgram
  split
  · exact bind_obeys ofExcept_obeys fun _ => storageCall_obeys (read_honest fun _ => rfl)
  · exact .pure trivial

theorem desiredRecord_updates (node : NodeRecord) (assignedProgramHash : Option Bytes) (scheduleIntervalS : Option Nat) :
    desiredRecord node assignedProgramHash scheduleIntervalS =
      (.assignedProgramHash assignedProgramHash :: scheduleUpdates scheduleIntervalS).foldl FieldUpdate.apply node := by
  cases scheduleIntervalS <;> rfl

theorem applyNodeDesiredState_disciplined
    (desiredState : DesiredState) : Disciplined (applyNodeDesiredState lib faults nodeId desiredState) := by
  refine .held (.ite .stop (getNode_finds _ _ _ _)) fun node => ?_
  refine bind_obeys ofExcept_obeys fun _ => bind_obeys ofExcept_obeys fun _ => bind_obeys ofExcept_obeys fun _ =>
    bind_obeys ofExcept_obeys fun _ => ite_obeys .stop ?_
  refine bind_obeys (storeInlineProgram_honest _ _ _ _ _ _) fun _ => bind_obeys (ifPresent_honest fun _ => ?_) fun _ =>
    bind_obeys (ifPresent_honest fun _ => ?_) fun _ => bind_obeys (upsert_honest (desiredRecord_updates _ _ _)) fun _ =>
    read_honest fun _ => rfl
  · exact bind_obeys (validateProgramExists_honest _ _ _ _ _ _) fun _ => .pure trivial
  · exact bind_obeys (validateProgramExists_honest _ _ _ _ _ _) fun _ => ite_obeys .stop (.pure trivial)

theorem removeNode_disciplined : Disciplined (removeNode faults nodeId) := by
  refine .unheld (bind_obeys ?_ fun _ => bind_obeys ?_ fun _ => ?_)
  · exact bind_obeys (storageCall_obeys (read_honest (.read _))) fun _ => foundOr_obeys
  · refine storageCall_obeys (atomic_honest (fun _ none => by cases none) (fun g id => ?_) fun _ => rfl)
    simp only [Program.update, Access.outcome]
    split
    · rename_i here
      rw [here, AList.lookup_erase]
    · rename_i other
      rw [AList.lookup_erase_ne other]
  · refine .atomic (fun g _ => ⟨⟨(fun _ none => by cases none), fun _ => rfl, fun id _ => ?_⟩, rfl⟩) fun _ _ _ _ _ => trivial
    by_cases here : id = nodeId
    · subst here
      exact .inr ⟨rfl, Function.update_self ..⟩
    · exact .inl (Function.update_of_ne here _ _)

theorem Operation.disciplined (operation : Operation) : Disciplined operation.task := by
  cases operation with
  | frame lib inputs raw =>
    refine .forget (.orDiscard fun decoded => .ite (.unheld (follows_honest
      Concurrent.handlePeerRequest_follows)) (.ite (.unheld (follows_honest Concurrent.handleDiagRequest_follows))
        (.held (authenticateNode_finds lib inputs decoded) fun authentic => ?_)))
    exact ite_obeys (follows_honest (Concurrent.handleWake_follows .trivially))
      (ite_obeys (follows_honest Concurrent.handlePostWake_follows) .stop)
  | assignProgram faults nodeId programHash =>
    refine .forget (.ofExcept fun hex => .held (getNode_finds _ _ _ _) fun node => ?_)
    exact bind_obeys (storageCall_obeys (read_honest (.read _))) fun _ => bind_obeys foundOr_obeys fun _ =>
      upsert_honest rfl
  | setSchedule faults nodeId intervalS =>
    refine .forget (.held (getNode_finds _ _ _ _) fun node => ?_)
    exact bind_obeys (upsert_honest rfl) fun _ => read_honest fun _ => rfl
  | applyNodeDesiredState lib faults nodeId desiredState =>
    exact (applyNodeDesiredState_disciplined lib faults nodeId desiredState).forget
  | registerNode faults nodeId keyHint psk =>
    refine .forget (.unheld ?_)
    refine ite_obeys .stop (ite_obeys .stop (ite_obeys .stop ?_))
    refine bind_obeys (storageCall_obeys (read_honest (.read _))) fun _ => ite_obeys .stop ?_
    exact storageCall_obeys (atomic_honest (fun _ none => by cases none) (fun g id => insert_lookup g.nodes _ id) fun _ => rfl)
  | removeNode faults nodeId => exact (removeNode_disciplined faults nodeId).forget

end Sonde.Engine
