import Sonde.Gateway.WakeRetry
import Sonde.Node.Radio

/-!
# The blob of a WAKE

The node's `wake_command_exchange` over a link that loses frames, with the gateway at its other end.
-/

namespace Sonde.System
open Lib Lib.Program Protocol Gateway Engine Node

/-- Whether the WAKE of the attempt and its answer arrive, what has happened at the gateway since the attempt before, and what
the gateway meets when it processes the WAKE. -/
structure Attempt where
  wakeArrives : Bool
  commandArrives : Bool
  since : List Engine.Event
  inputs : Engine.Inputs

structure Arrival where
  inputs : Engine.Inputs
  gateway : Gateway
  raw : Bytes

/-- `arrivals` are the copies that have reached the gateway, with the state in which it has got them; `emitted` and `spawned`
are what it has sent to the connector and to handlers for their blobs. -/
structure Air where
  gateway : Gateway
  attempts : List Attempt
  answer : Option Bytes
  arrivals : List Arrival
  emitted : List AppData
  spawned : List WakeBlobTask

def Air.new (gateway : Gateway) (attempts : List Attempt) : Air := ⟨gateway, attempts, none, [], [], []⟩

section
variable (lib : Libraries)

def Air.arrive (air : Air) (attempt : Attempt) (raw : Bytes) : Air :=
  let g := air.gateway.run lib attempt.since
  let (answer, g') := processFrame lib attempt.inputs raw g
  { air with
    gateway := g'
    answer := if attempt.commandArrives then answer.toOption else none
    arrivals := air.arrivals ++ [⟨attempt.inputs, g, raw⟩]
    emitted := air.emitted ++ g'.outputs.emitted.drop g.outputs.emitted.length
    spawned := air.spawned ++ g'.wakeBlobTasks.drop g.wakeBlobTasks.length }

def Air.send (air : Air) (raw : Bytes) : Air :=
  match air.attempts with
  | [] => { air with answer := none }
  | attempt :: attempts =>
    if attempt.wakeArrives then { air.arrive lib attempt raw with attempts := attempts }
    else { air with attempts := attempts, answer := none }

def airLink : Link Air where
  send raw air := (.ok (), air.send lib raw)
  recv _ air := (.ok air.answer, { air with answer := none })
  elapsedMs air := (0, air)
  delayMs _ air := air
  delayUs _ air := air
  patience := 0

end

/-! ## Which copies are forwarded -/

def carriesData (wake : WakeFields) : Bool := wake.blob.any (· ≠ []) ∧ wake.programHash ≠ []

def opensSession (inputs : Engine.Inputs) (nodeId : String) (nonce : BitVec 64) (g : Gateway) : Bool :=
  ((g.sessionManager.getSession nodeId).bind (retriedCommand nonce)).isSome ∨ inputs.random.isSome

/-- The gateway finds the copy to be a node's, it carries data of a program, and a session can be opened for it. -/
def Arrival.Forwards (lib : Libraries) (arrival : Arrival) : Bool :=
  match decodeFrame arrival.raw with
  | .error _ => false
  | .ok decoded =>
    match (authenticateNode lib arrival.inputs decoded arrival.gateway).1 with
    | .error _ => false
    | .ok (node, payload) =>
      (decodeWake lib payload).any carriesData &&
        opensSession arrival.inputs node.nodeId decoded.header.nonce arrival.gateway

variable {raw : Bytes} {decoded : DecodedFrame}

section
variable {lib : Libraries} {inputs : Engine.Inputs} {node : NodeRecord} {header : FrameHeader} {payload : Bytes} {g : Gateway}

theorem wakeCommand_opens (nonce : BitVec 64) (wake : WakeFields) :
    (wakeCommand inputs node nonce wake g).1.isOk = opensSession inputs node.nodeId nonce g := by
  rw [wakeCommand_eq]
  unfold opensSession
  cases (g.sessionManager.getSession node.nodeId).bind (retriedCommand nonce) with
  | some retried => rfl
  | none => cases inputs.random <;> rfl

/-- From `g` to `g'` the connector has got `n` messages and at most as many tasks have been spawned. -/
def Forwarded (n : Nat) (g g' : Gateway) : Prop :=
  ∃ emitted spawned, g'.outputs.emitted = g.outputs.emitted ++ emitted ∧ emitted.length = n ∧
    g'.wakeBlobTasks = g.wakeBlobTasks ++ spawned ∧ spawned.length ≤ n

theorem Forwarded.none {n : Nat} {g' : Gateway} (zero : n = 0) (emitted : g'.outputs.emitted = g.outputs.emitted)
    (tasks : g'.wakeBlobTasks = g.wakeBlobTasks) : Forwarded n g g' :=
  ⟨[], [], emitted.trans (List.append_nil _).symm, zero.symm, tasks.trans (List.append_nil _).symm, Nat.zero_le _⟩

theorem routeWakeBlob_forwards (inputs : Engine.Inputs) (nodeId : String) (nonce : BitVec 64) (wake : WakeFields)
    (g : Gateway) : Forwarded (carriesData wake).toNat g (routeWakeBlob inputs nodeId nonce wake g).2 := by
  simp only [routeWakeBlob, update_run]
  cases blob : wake.blob with
  | none => exact .none (by simp [carriesData, blob]) rfl rfl
  | some data =>
    dsimp only
    split
    next unroutable => exact .none (by rcases unroutable with empty | unnamed <;> simp [carriesData, *]) rfl rfl
    next routable =>
      have carries : (carriesData wake).toNat = 1 := by
        rw [not_or] at routable
        simp [carriesData, blob, routable]
      rw [carries]
      split
      · exact ⟨_, [], rfl, rfl, (List.append_nil _).symm, Nat.zero_le _⟩
      · exact ⟨_, _, rfl, rfl, rfl, le_refl 1⟩

variable (lib inputs node header payload g) in
theorem handleWake_forwards :
    Forwarded ((decodeWake lib payload).any carriesData && opensSession inputs node.nodeId header.nonce g).toNat g
      (handleWake lib inputs node header payload g).2 := by
  have stopped (closed : ∀ wake seq command t, decodeWake lib payload = some wake →
      wakeCommand inputs node header.nonce wake g ≠ (.ok (seq, command), t)) :
      (handleWake lib inputs node header payload g).2 = g := by
    rcases handleWake_cases lib inputs node header payload g with stops | ⟨wake, seq, command, t, decodes, choice⟩
    · rw [stops]
    · exact absurd choice (closed wake seq command t decodes)
  cases decodes : decodeWake lib payload with
  | none =>
    rw [stopped (by simp [decodes])]
    exact .none rfl rfl rfl
  | some wake =>
    have opens : _ = opensSession inputs node.nodeId header.nonce g := wakeCommand_opens header.nonce wake
    cases choice : wakeCommand inputs node header.nonce wake g with
    | mk result t =>
      rw [choice] at opens
      cases result with
      | error e =>
        rw [stopped (by rintro _ _ _ _ found; cases decodes.symm.trans found; simp [choice])]
        exact .none (by simp [← opens, Except.isOk, Except.toBool]) rfl rfl
      | ok chosen =>
        obtain ⟨emits, spawns⟩ := handleWake_routes decodes choice
        have forwards := routeWakeBlob_forwards inputs node.nodeId header.nonce wake
          (reconciledState inputs node wake chosen.2 t)
        have untouched : t.outputs = g.outputs ∧ t.wakeBlobTasks = g.wakeBlobTasks := by
          rcases wakeCommand_state choice with rfl | ⟨_, _, -, rfl⟩ <;> exact ⟨rfl, rfl⟩
        have opened : (carriesData wake).toNat =
            ((some wake).any carriesData && opensSession inputs node.nodeId header.nonce g).toNat := by
          simp [← opens, Except.isOk, Except.toBool]
        rw [← opened]
        unfold Forwarded at forwards ⊢
        rw [emits, spawns, ← untouched.1, ← untouched.2]
        rw [reconciledState_eq] at forwards ⊢
        exact forwards

variable (lib inputs g) in
theorem processFrame_forwards (decodes : decodeFrame raw = .ok decoded) (request : decoded.header.msgType = msgWake) :
    Forwarded (Arrival.Forwards lib ⟨inputs, g, raw⟩).toNat g (processFrame lib inputs raw g).2 := by
  have fixed : Fixes (fun g : Gateway => (g.outputs, g.wakeBlobTasks, g.sessionManager))
      (authenticateNode lib inputs decoded) :=
    authenticateNode_fixes fun _ _ _ => rfl
  have same := fixed g
  rw [processFrame_node decodes (wakeFrame_fromNode request), handleNodeFrame, bind_run]
  unfold Arrival.Forwards
  rw [decodes]
  dsimp only
  cases authentic : authenticateNode lib inputs decoded g with
  | mk result g' =>
    simp only [authentic, Prod.mk.injEq] at same
    obtain ⟨outputs, tasks, sessions⟩ := same
    cases result with
    | error e => exact .none rfl (by rw [outputs]) tasks
    | ok found =>
      have forwards := handleWake_forwards lib inputs found.1 decoded.header found.2 g'
      unfold Forwarded opensSession at forwards
      rw [outputs, tasks, sessions] at forwards
      dsimp only
      rw [if_pos request]
      exact forwards

end

/-! ## The exchange -/

def Air.Accounted (lib : Libraries) (air : Air) : Prop :=
  air.emitted.length = (air.arrivals.filter (Arrival.Forwards lib)).length ∧ air.spawned.length ≤ air.emitted.length

variable {lib : Libraries}

theorem Air.Accounted.send {air : Air} (accounted : air.Accounted lib)
    (decodes : decodeFrame raw = .ok decoded) (request : decoded.header.msgType = msgWake) :
    (air.send lib raw).Accounted lib := by
  unfold Air.send
  split
  · exact accounted
  split
  · next attempt attempts _ _ =>
      obtain ⟨emitted, spawned, emits, one, tasks, few⟩ := processFrame_forwards lib attempt.inputs
        (air.gateway.run lib attempt.since) decodes request
      obtain ⟨exactly, fewer⟩ := accounted
      refine ⟨?_, ?_⟩
      · simp only [Air.arrive, List.length_append, List.filter_append, emits, List.drop_left, one, exactly,
          List.filter_singleton]
        cases Arrival.Forwards lib ⟨attempt.inputs, air.gateway.run lib attempt.since, raw⟩ <;> rfl
      · simp only [Air.arrive, List.length_append, emits, tasks, List.drop_left]
        omega
  · exact accounted

theorem wakeAttempts_accounted (reader : Cbor.Reader) (identity : NodeIdentity) (nonce : BitVec 64) (payload : Bytes)
    (left : Nat) : Keeps (fun radio : Radio Air => radio.world.Accounted lib)
      (wakeAttempts (airLink lib) lib.provider reader identity nonce payload left) fun _ => True := by
  induction left with
  | zero => exact .stop
  | succ left ih =>
    have sends : Keeps (fun radio : Radio Air => radio.world.Accounted lib)
        (sendFrame (airLink lib) lib.provider identity msgWake nonce payload) fun _ => True := by
      unfold sendFrame
      dsimp only
      cases sealed : encodeFrame lib.provider ⟨identity.keyHint, msgWake, nonce⟩ payload identity.psk with
      | error e => exact .stop
      | ok raw =>
        obtain ⟨decoded, decodes, header, -⟩ := encodeFrame_opens sealed
        exact fun radio accounted => ⟨accounted.send decodes (by rw [header]), fun _ _ => trivial⟩
    have hears : Keeps (fun radio : Radio Air => radio.world.Accounted lib)
        (receive (airLink lib) responseTimeoutMs) fun _ => True :=
      fun radio accounted => ⟨accounted, fun _ _ => trivial⟩
    refine .bind (.maybe (.change fun radio accounted => accounted)) fun _ _ => .bind sends fun _ _ =>
      .bind hears fun response _ => ?_
    cases response with
    | none => exact ih
    | some raw =>
      dsimp only
      split
      · exact .pure trivial
      · exact ih

def exchanged (lib : Libraries) (identity : NodeIdentity) (wakeNonce : BitVec 64) (programHash : Bytes) (batteryMv : Nat)
    (wakeBlob : Option Bytes) (gateway : Gateway) (attempts : List Attempt) : Air :=
  (wakeCommandExchange (airLink lib) lib.provider lib.reader identity wakeNonce programHash batteryMv wakeBlob
    ⟨.new gateway attempts, 0, none, []⟩).2.world

theorem wake_blob_forwarded_once_iff (lib : Libraries) (identity : NodeIdentity) (wakeNonce : BitVec 64)
    (programHash : Bytes) (batteryMv : Nat) (wakeBlob : Option Bytes) (gateway : Gateway) (attempts : List Attempt) :
    (exchanged lib identity wakeNonce programHash batteryMv wakeBlob gateway attempts).emitted.length ≤ 1 ∧
        (exchanged lib identity wakeNonce programHash batteryMv wakeBlob gateway attempts).spawned.length ≤ 1 ↔
      ((exchanged lib identity wakeNonce programHash batteryMv wakeBlob gateway attempts).arrivals.filter
        (Arrival.Forwards lib)).length ≤ 1 := by
  have accounted : (exchanged lib identity wakeNonce programHash batteryMv wakeBlob gateway attempts).Accounted lib :=
    (wakeAttempts_accounted lib.reader identity wakeNonce _ (maxRetries + 1) ⟨.new gateway attempts, 0, none, []⟩
      ⟨rfl, le_refl 0⟩).1
  obtain ⟨exactly, fewer⟩ := accounted
  constructor
  · omega
  · omega

-- The COMMAND of the first attempt is lost, so the WAKE is sent and forwarded again.
theorem lost_command_forwards_twice : ¬((exchanged plainLib ⟨0, 7⟩ 1 [9] 3000 (some [1]) smallGateway
        [⟨true, false, [], smallInputs⟩, ⟨true, true, [], smallInputs⟩]).emitted.length ≤ 1) ∧
      ¬((exchanged plainLib ⟨0, 7⟩ 1 [9] 3000 (some [1]) smallGateway
        [⟨true, false, [], smallInputs⟩, ⟨true, true, [], smallInputs⟩]).spawned.length ≤ 1) := by
  decide +kernel

end Sonde.System
