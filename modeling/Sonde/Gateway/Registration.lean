import Sonde.Gateway.Accesses
import Sonde.Gateway.Recovery

/-!
# The key of a registered node

Registrations side by side. `register_node` looks the node up and later writes it, a recovery writes it without looking,
and a PEER_REQUEST inserts it if it is not there.
-/

namespace Sonde.Engine
open Lib Lib.Program Protocol Sonde.Gateway
open Lib.Task (Under)

inductive Registration where
  | registerNode (faults : AdminFaults) (nodeId : String) (keyHint : Nat) (psk : Bytes)
  | handlePeerRequest (lib : Libraries) (inputs : Inputs) (decoded : DecodedFrame)
  | tryRecoveryAuth (lib : Libraries) (inputs : Inputs) (decoded : DecodedFrame)

def Registration.task : Registration → Task Gateway Label Unit Unit
  | .registerNode faults nodeId keyHint psk => (Engine.registerNode faults nodeId keyHint psk).forget
  | .handlePeerRequest lib inputs decoded => (Concurrent.handlePeerRequest lib inputs decoded).forget
  | .tryRecoveryAuth lib inputs decoded => (Concurrent.tryRecoveryAuth lib inputs decoded).forget

def registering (g : Gateway) (registrations : List Registration) : Operations := ⟨g, registrations.map Registration.task⟩

def Access.Enrols : Access → Prop
  | .other | .insertNodeIfNotExists _ | .registerNode _ => True
  | _ => False

structure Enrols (g : Gateway) (label : Label) (g' : Gateway) : Prop where
  kind : label.access.Enrols
  records : ∀ nodeId, g'.nodes.lookup nodeId = label.access.outcome nodeId (g.nodes.lookup nodeId)

variable {ε α : Type}

theorem atomic_enrols {label : Label} {m : Program Gateway ε α} (kind : label.access.Enrols)
    (records : ∀ g nodeId, (m g).2.nodes.lookup nodeId = label.access.outcome nodeId (g.nodes.lookup nodeId)) :
    (Task.atomic label m).Obeys Enrols :=
  .atomic (fun g _ => ⟨kind, records g⟩) fun _ _ _ _ _ => trivial

theorem aside_enrols {holds : Option String} {m : Program Gateway ε α} (fixed : Fixes Gateway.nodes m) :
    (Task.atomic ⟨holds, .other⟩ m).Obeys Enrols :=
  atomic_enrols trivial fun g nodeId => by rw [fixed g]; rfl

theorem registerNode_enrols (faults : AdminFaults) (nodeId : String) (keyHint : Nat) (psk : Bytes) :
    (registerNode faults nodeId keyHint psk).Obeys Enrols := by
  refine ite_obeys .stop (ite_obeys .stop (ite_obeys .stop ?_))
  refine bind_obeys (storageCall_obeys (aside_enrols (.read _))) fun found => ite_obeys .stop ?_
  exact storageCall_obeys (atomic_enrols trivial fun g id => insert_lookup g.nodes _ id)

theorem Effect.enrols {R : Prop} {C : CommandPayload → Prop} {g g' : Gateway} {label : Label}
    (effect : Effect R C none g label.access g') : Enrols g label g' := by
  obtain ⟨holds, access⟩ := label
  cases effect with
  | aside same => exact ⟨trivial, fun nodeId => congrArg (·.1.lookup nodeId) same⟩
  | session held => cases held
  | record maker records =>
    refine ⟨?_, records⟩
    cases access with
    | insertNodeIfNotExists record => trivial
    | registerNode record => trivial
    | _ => cases maker
  | _ => exact ⟨trivial, fun _ => rfl⟩

theorem Registration.enrols (registration : Registration) : registration.task.Obeys Enrols := by
  cases registration with
  | registerNode faults nodeId keyHint psk => exact (registerNode_enrols faults nodeId keyHint psk).forget
  | handlePeerRequest lib inputs decoded =>
    exact (Under.mono (Concurrent.handlePeerRequest_follows (R := True) (C := fun _ => True)) (fun _ free => free)
      (fun _ _ _ _ step => step.2.enrols) fun _ _ => trivial).forget
  | tryRecoveryAuth lib inputs decoded =>
    exact (Under.mono (Concurrent.tryRecoveryAuth_follows (R := True) (C := fun _ => True)) (fun _ free => free)
      (fun _ _ _ _ step => step.enrols) fun _ _ => trivial).forget

/-! ## Runs -/

def SameKey (record other : NodeRecord) : Prop := other.psk = record.psk ∧ other.keyHint = record.keyHint

def KeepsKeys (p : Operations) (i : Nat) : Prop :=
  ∀ nodeId record, p.state.nodes.lookup nodeId = some record →
    ∃ after, (p.step i).state.nodes.lookup nodeId = some after ∧ SameKey record after

def Respects (p : Operations) (i : Nat) : Prop :=
  ∀ holds record existing, p.label i = some ⟨holds, .registerNode record⟩ →
    p.state.nodes.lookup record.nodeId = some existing → SameKey existing record

theorem keepsKeys_iff {p : Operations} (enrols : ∀ t ∈ p.tasks, t.Obeys Enrols) (i : Nat) :
    KeepsKeys p i ↔ Respects p i := by
  rcases Task.Pool.step_under enrols trivial i with ⟨idle, same⟩ | ⟨⟨holds, access⟩, next, step, -⟩
  · refine iff_of_true (fun nodeId record found => ⟨record, by rw [same, found], rfl, rfl⟩) ?_
    intro holds record existing here
    rw [idle] at here
    cases here
  · unfold KeepsKeys Respects
    simp only [next, step.records, Option.some.injEq, Label.mk.injEq]
    have kind := step.kind
    cases access with
    | other =>
      refine iff_of_true (fun nodeId record found => ⟨record, found, rfl, rfl⟩) ?_
      rintro _ _ _ ⟨-, ⟨⟩⟩
    | insertNodeIfNotExists record =>
      refine iff_of_true (fun nodeId existing found => ⟨existing, ?_, rfl, rfl⟩) ?_
      · rw [Access.outcome, found]
        exact ite_self _
      · rintro _ _ _ ⟨-, ⟨⟩⟩
    | registerNode record =>
      constructor
      · rintro keeps _ _ existing ⟨-, ⟨⟩⟩ found
        obtain ⟨after, written, same⟩ := keeps record.nodeId existing found
        rw [Access.outcome, if_pos rfl] at written
        cases written
        exact same
      · intro respects nodeId existing found
        by_cases here : nodeId = record.nodeId
        · subst here
          exact ⟨record, if_pos rfl, respects holds record existing ⟨rfl, rfl⟩ found⟩
        · exact ⟨existing, (if_neg here).trans found, rfl, rfl⟩
    | _ => cases kind

theorem run_enrols {p : Operations} (enrols : ∀ t ∈ p.tasks, t.Obeys Enrols) (schedule : List Nat) :
    ∀ t ∈ (p.run schedule).tasks, t.Obeys Enrols := by
  induction schedule generalizing p with
  | nil => exact enrols
  | cons i schedule ih => exact ih (Task.Pool.step_all (fun _ _ _ s under => (under s trivial).2 trivial) enrols i)

theorem keys_kept_iff (g : Gateway) (registrations : List Registration) (schedule : List Nat) :
    (∀ earlier i, earlier ++ [i] <+: schedule → KeepsKeys ((registering g registrations).run earlier) i) ↔
      ∀ earlier i, earlier ++ [i] <+: schedule → Respects ((registering g registrations).run earlier) i := by
  have enrols : ∀ t ∈ (registering g registrations).tasks, t.Obeys Enrols := by
    intro t member
    obtain ⟨registration, -, rfl⟩ := List.mem_map.mp member
    exact registration.enrols
  refine forall₃_congr fun earlier i _ => keepsKeys_iff (run_enrols enrols earlier) i

def smallRegistration (psk : BitVec 8) : Registration := .registerNode (fun _ => none) "x" 0 (List.replicate 32 psk)

theorem replaced {p : Operations} {i : Nat} (nodeId : String) (psk psk' : Bytes32)
    (before : (p.state.nodes.lookup nodeId).map (·.psk) = some psk)
    (after : ((p.step i).state.nodes.lookup nodeId).map (·.psk) = some psk') (different : psk' ≠ psk) :
    ¬KeepsKeys p i := by
  intro keeps
  obtain ⟨record, found, rfl⟩ := Option.map_eq_some_iff.mp before
  obtain ⟨written, stored, same, -⟩ := keeps nodeId record found
  rw [stored] at after
  cases after
  exact different same

def repairedGateway : Gateway := recoveryGateway ((∅ : Table String NodeRecord).insert "m" (NodeRecord.new "m" 1 7))

theorem registrations_replace_keys :
    ¬KeepsKeys ((registering smallGateway [smallRegistration 1, smallRegistration 2]).run [0, 1, 0]) 1 ∧
    nodesByKeyHint recoveryDecoded.header.keyHint repairedGateway = [] ∧
    ¬KeepsKeys ((registering repairedGateway [.tryRecoveryAuth plainLib smallInputs recoveryDecoded]).run [0, 0]) 0 := by
  refine ⟨?_, by decide +kernel, ?_⟩
  · refine replaced "x" (BitVec.ofNat 256 (ofBigEndian (List.replicate 32 1)))
      (BitVec.ofNat 256 (ofBigEndian (List.replicate 32 2))) ?_ ?_ ?_
    all_goals decide +kernel
  · refine replaced "m" 7 8 ?_ ?_ ?_
    all_goals decide +kernel

end Sonde.Engine
