import Sonde.Gateway.Accesses
import Sonde.Gateway.WakeRetry

/-!
# Deferred replies under concurrency

`handle_wake` reads the deferred reply of a node under one lock and removes it by key under another. What it removes is
what it has put into its COMMAND unless another reply was stored in between.
-/

namespace Sonde.Engine
open Lib Protocol Sonde.Gateway
open Lib.Task (Under)

inductive ReplyCall where
  | handleWake (inputs : Inputs) (node : NodeRecord) (header : FrameHeader) (payload : Bytes)
  | wakeBlobTask (inputs : Inputs) (index : Nat)
  | handlePostWake (inputs : Inputs) (node : NodeRecord) (header : FrameHeader) (payload : Bytes)

def ReplyCall.task (lib : Libraries) : ReplyCall → Steps Bytes
  | .handleWake inputs node header payload => Concurrent.handleWake lib inputs node header payload
  | .wakeBlobTask inputs index => do
    Concurrent.call none (Program.update fun g => g.step lib (.wakeBlobReply inputs index))
    .stop .discarded
  | .handlePostWake inputs node header payload => Concurrent.handlePostWake lib inputs node header payload

abbrev ReplyCalls := Task.Pool Gateway Label Discarded Bytes

def calling (lib : Libraries) (g : Gateway) (calls : List ReplyCall) : ReplyCalls := ⟨g, calls.map (·.task lib)⟩

def removal (nodeId : String) (frame : Bytes) : Steps Bytes :=
  .step ⟨some nodeId, .other⟩
    (fun g => { g with deferredReplies := Function.update g.deferredReplies nodeId none }) fun _ => .done (.ok frame)

section
variable (lib : Libraries) (calls : List ReplyCall) (nodeId : String) (p : ReplyCalls) (i : Nat)

/-- If the step takes the deferred reply of the node away, then another one takes its place, or the step ends a
`handle_wake` that returns a COMMAND with that reply. -/
def Delivering : Prop :=
  ∀ reply, p.state.deferredReplies nodeId = some reply → (p.step i).state.deferredReplies nodeId = none →
    ∃ inputs node header payload frame, calls[i]? = some (.handleWake inputs node header payload) ∧
      node.nodeId = nodeId ∧ (p.step i).tasks[i]? = some (.done (.ok frame)) ∧
      Carries lib (rowCore node) header.nonce frame .nop (some reply)

/-- A `handle_wake` that comes to its removal finds the reply that it has put into its COMMAND, or none. -/
def Undisturbed : Prop :=
  ∀ inputs node header payload frame blob reply, calls[i]? = some (.handleWake inputs node header payload) →
    node.nodeId = nodeId → p.tasks[i]? = some (removal nodeId frame) →
    Carries lib (rowCore node) header.nonce frame .nop (some blob) →
    p.state.deferredReplies nodeId = some reply → reply = blob

end

def Retains (g : Gateway) (_ : Label) (g' : Gateway) : Prop :=
  ∀ id, (g.deferredReplies id).isSome → (g'.deferredReplies id).isSome

variable {label : Label}

theorem Effect.retains {C : CommandPayload → Prop} {holder : Option String} {access : Access} {g g' : Gateway}
    (effect : Effect False C holder g access g') (label : Label) : Retains g label g' := by
  intro id some
  cases effect with
  | aside same => rwa [show g'.deferredReplies = g.deferredReplies from congrArg (·.2.2.2.2.1) same]
  | reply nodeId entry kept =>
    by_cases same : id = nodeId
    · simpa [same, Option.isSome_iff_ne_none] using kept
    · simpa [same] using some
  | _ => exact some

theorem follows_retains {α : Type} {Q : α → Prop} {holder : Option String} {t : Steps α}
    (follows : Follows False (fun _ => True) (fun _ => True) holder Q t) : t.Under (fun _ => True) Retains Q :=
  .mono follows (fun _ free => free) (fun _ label _ _ step => step.2.retains label) fun _ value => value

theorem wakeBlobReply_retains {lib : Libraries} {inputs : Inputs} (index : Nat) :
    (Concurrent.call none (Program.update fun g => g.step lib (.wakeBlobReply inputs index))).Obeys Retains := by
  refine .atomic (fun g _ id some => ?_) fun _ _ _ _ _ => trivial
  simp only [Program.update, Gateway.step]
  cases g.wakeBlobTasks[index]? with
  | none => exact some
  | some task =>
    simp only [runWakeBlobTask, Gateway.tell]
    split
    · exact some
    split
    · by_cases same : id = task.nodeId
      · simp [same]
      · simpa [same] using some
    · exact some

/-! ## What is left of a call -/

inductive Waking (lib : Libraries) (node : NodeRecord) (nonce : BitVec 64) : Steps Bytes → Prop
  | returned (result : Except Discarded Bytes) : Waking lib node nonce (.done result)
  | retaining {label : Label} {effect : Gateway → Gateway} {next : Gateway → Steps Bytes}
      (retains : ∀ g, Retains g label (effect g)) (rest : ∀ g, Waking lib node nonce (next g)) :
      Waking lib node nonce (.step label effect next)
  | removing {frame blob : Bytes} (carries : Carries lib (rowCore node) nonce frame .nop (some blob)) :
      Waking lib node nonce (removal node.nodeId frame)

variable {nonce : BitVec 64} {lib : Libraries} {node : NodeRecord}

theorem Waking.bind {α : Type} {t : Steps α}
    {f : α → Steps Bytes} {Q : α → Prop} (first : t.Under (fun _ => True) Retains Q)
    (second : ∀ a, Q a → Waking lib node nonce (f a)) : Waking lib node nonce (t >>= f) := by
  induction t with
  | done result =>
    cases result with
    | ok a => exact second a (first a rfl)
    | error e => exact .returned _
  | step label effect next ih =>
    exact .retaining (fun g => (first g trivial).1) fun g => ih g ((first g trivial).2 trivial)

theorem handleWake_waking (lib : Libraries) (inputs : Inputs) (node : NodeRecord) (header : FrameHeader)
    (payload : Bytes) : Waking lib node header.nonce (Concurrent.handleWake lib inputs node header payload) := by
  refine Waking.bind (follows_retains (Concurrent.handleWakeCore_follows Vouches.trivially)) ?_
  rintro ⟨responseHeader, responseCbor, delivered⟩ ⟨⟨rfl, startingSeq, timestampMs, command, blob, rfl, rfl, plain⟩, -⟩
  have sealing : (Concurrent.call (some node.nodeId) (encodeResponse lib ⟨node.keyHint, msgCommand, header.nonce⟩
      (GatewayMessage.command startingSeq timestampMs command blob).encode node.psk none)).Under (fun _ => True) Retains
      fun frame => Carries lib (rowCore node) header.nonce frame command blob := by
    refine .atomic (fun g _ id some => ?_) fun g _ _ frame sent => ⟨startingSeq, timestampMs, ?_⟩
    · have effect : Effect False (fun _ => True) none g .other (encodeResponse lib ⟨node.keyHint, msgCommand, header.nonce⟩
          (GatewayMessage.command startingSeq timestampMs command blob).encode node.psk none g).2 :=
        encodeResponse_effect lib (fun _ => ⟨_, _, _, _, rfl, trivial⟩) _ _ g
      exact effect.retains ⟨none, .other⟩ id some
    · exact encodeResponse_ok (Prod.ext sent rfl)
  refine Waking.bind sealing fun frame carries => ?_
  cases blob with
  | none => exact .returned _
  | some reply =>
    rw [plain rfl] at carries
    exact .removing carries

def ReplyCall.Leaves (lib : Libraries) (call : ReplyCall) (t : Steps Bytes) : Prop :=
  match call with
  | .handleWake _ node header _ => Waking lib node header.nonce t
  | _ => t.Obeys Retains

theorem ReplyCall.leaves_task (lib : Libraries) (call : ReplyCall) : call.Leaves lib (call.task lib) := by
  cases call with
  | handleWake inputs node header payload => exact handleWake_waking lib inputs node header payload
  | wakeBlobTask inputs index => exact bind_obeys (wakeBlobReply_retains index) fun _ => .stop
  | handlePostWake inputs node header payload => 
    exact .mono (follows_retains Concurrent.handlePostWake_follows) (fun _ free => free) (fun _ _ _ _ step => step)
      fun _ _ => trivial

variable {effect : Gateway → Gateway}

theorem Waking.next {next : Gateway → Steps Bytes}
    (waking : Waking lib node nonce (.step label effect next)) (g : Gateway) : Waking lib node nonce (next g) := by
  generalize shape : (.step label effect next : Steps Bytes) = t at waking
  cases waking with
  | returned result => cases shape
  | retaining retains rest =>
    cases shape
    exact rest g
  | removing carries =>
    cases shape
    exact .returned _

theorem ReplyCall.Leaves.next {call : ReplyCall}
    {next : Gateway → Steps Bytes} (leaves : call.Leaves lib (.step label effect next)) (g : Gateway) :
    call.Leaves lib (next g) := by
  cases call with
  | handleWake inputs node header payload => exact Waking.next leaves g
  | wakeBlobTask inputs index => exact (leaves g trivial).2 trivial
  | handlePostWake inputs node header payload => exact (leaves g trivial).2 trivial

variable {calls : List ReplyCall} {nodeId : String} {p : ReplyCalls} {i : Nat}

def Progressing (lib : Libraries) (calls : List ReplyCall) (p : ReplyCalls) : Prop :=
  ∀ (j : Nat) (t : Steps Bytes), p.tasks[j]? = some t → ∃ call : ReplyCall, calls[j]? = some call ∧ call.Leaves lib t

theorem calling_progressing (lib : Libraries) (g : Gateway) (calls : List ReplyCall) :
    Progressing lib calls (calling lib g calls) := by
  intro j t found
  simp only [calling, List.getElem?_map, Option.map_eq_some_iff] at found
  obtain ⟨call, here, rfl⟩ := found
  exact ⟨call, here, call.leaves_task lib⟩

theorem Progressing.step (progressing : Progressing lib calls p) (i : Nat) : Progressing lib calls (p.step i) := by
  intro j t found
  unfold Task.Pool.step at found
  cases here : p.tasks[i]? with
  | none =>
    rw [here] at found
    exact progressing j t found
  | some u =>
    rw [here] at found
    cases u with
    | done result => exact progressing j t found
    | step label effect next =>
      by_cases same : i = j
      · subst same
        rw [List.getElem?_set_self (List.getElem?_eq_some_iff.mp here).1] at found
        cases found
        obtain ⟨call, called, leaves⟩ := progressing i _ here
        exact ⟨call, called, leaves.next p.state⟩
      · rw [List.getElem?_set_ne same] at found
        exact progressing j t found

theorem delivering_iff (progressing : Progressing lib calls p) :
    Delivering lib calls nodeId p i ↔ Undisturbed lib calls nodeId p i := by
  constructor
  · intro delivering inputs node header payload frame blob reply called here next carries held
    have ran : p.step i = ⟨{ p.state with deferredReplies := Function.update p.state.deferredReplies nodeId none },
        p.tasks.set i (.done (.ok frame))⟩ := by
      unfold Task.Pool.step
      rw [next]
      rfl
    obtain ⟨_, _, _, _, frame', called', -, returned, carries'⟩ :=
      delivering reply held (by rw [ran]; exact Function.update_self ..)
    rw [called] at called'
    cases called'
    rw [ran, List.getElem?_set_self (List.getElem?_eq_some_iff.mp next).1] at returned
    cases returned
    exact Option.some.inj (Carries.unique carries' carries)
  · intro undisturbed reply held gone
    unfold Task.Pool.step at gone ⊢
    cases next : p.tasks[i]? with
    | none =>
      rw [next, held] at gone
      cases gone
    | some t =>
      rw [next] at gone
      cases t with
      | done result =>
        rw [held] at gone
        cases gone
      | step label effect after =>
        obtain ⟨call, called, leaves⟩ := progressing i _ next
        have kept (retains : Retains p.state label (effect p.state)) : False := by
          have some := retains nodeId (by rw [held]; rfl)
          rw [gone] at some
          cases some
        cases call with
        | wakeBlobTask inputs index => exact (kept (leaves p.state trivial).1).elim
        | handlePostWake inputs node header payload => exact (kept (leaves p.state trivial).1).elim
        | handleWake inputs node header payload =>
          generalize shape : (.step label effect after : Steps Bytes) = t at leaves
          cases leaves with
          | returned result => cases shape
          | retaining retains rest =>
            cases shape
            exact (kept (retains p.state)).elim
          | removing carries =>
            cases shape
            have here : node.nodeId = nodeId := by
              by_contra other
              have same := (Function.update_of_ne (Ne.symm other) none p.state.deferredReplies).symm.trans gone
              rw [held] at same
              cases same
            subst here
            refine ⟨inputs, node, header, payload, _, called, rfl,
              List.getElem?_set_self (List.getElem?_eq_some_iff.mp next).1, ?_⟩
            rw [undisturbed inputs node header payload _ _ reply called rfl next carries held]
            exact carries

theorem Progressing.run (progressing : Progressing lib calls p) (schedule : List Nat) :
    Progressing lib calls (p.run schedule) := by
  induction schedule generalizing p with
  | nil => exact progressing
  | cons i schedule ih => exact ih (progressing.step i)

theorem delivered_iff (lib : Libraries) (g : Gateway) (calls : List ReplyCall) (nodeId : String) (schedule : List Nat) :
    (∀ done i rest, schedule = done ++ i :: rest → Delivering lib calls nodeId ((calling lib g calls).run done) i) ↔
      ∀ done i rest, schedule = done ++ i :: rest → Undisturbed lib calls nodeId ((calling lib g calls).run done) i :=
  forall₄_congr fun done _ _ _ => delivering_iff ((calling_progressing lib g calls).run done)

def racingGateway : Gateway :=
  { smallGateway with
    deferredReplies := Function.update (fun _ => none) "n" (some [2])
    wakeBlobTasks := [⟨0, .data 0 "n" [9] [7] 0 none, "n"⟩] }

def racingCalls : List ReplyCall :=
  [.handleWake smallInputs smallNode ⟨0, msgWake, 1⟩ (NodeMessage.wake 1 [9] 3000 [0x31] none).encode,
    .wakeBlobTask smallInputs 0]

theorem reply_dropped : ¬∀ done i rest, List.replicate 11 0 ++ [1, 0] = done ++ i :: rest →
      Delivering plainLib racingCalls "n" ((calling plainLib racingGateway racingCalls).run done) i := by
  intro delivered
  have undisturbed := (delivering_iff ((calling_progressing plainLib racingGateway racingCalls).run _)).mp
    (delivered (List.replicate 11 0 ++ [1]) 0 [] rfl)
  have same : ([1] : Bytes) = [2] := undisturbed smallInputs smallNode ⟨0, msgWake, 1⟩ _ _ [2] [1] rfl rfl rfl ⟨5, 1000, rfl⟩ rfl
  cases same

end Sonde.Engine
