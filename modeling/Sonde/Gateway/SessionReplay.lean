import Sonde.Gateway.NonceReuse

namespace Sonde.Engine
open Lib Lib.Program Protocol Sonde.Gateway List

def IsPostWake (header : FrameHeader) : Prop :=
  header.msgType = msgGetChunk ∨ header.msgType = msgProgramAck ∨ header.msgType = msgAppData

instance (header : FrameHeader) : Decidable (IsPostWake header) := inferInstanceAs (Decidable (_ ∨ _ ∨ _))

def acceptingNode (lib : Libraries) (inputs : Inputs) (decoded : DecodedFrame) (g : Gateway) : Option String :=
  match authenticateNode lib inputs decoded g with
  | (.ok (node, payload), g') =>
    if Accepts lib inputs node decoded.header payload g' then some node.nodeId else none
  | (.error _, _) => none

def acceptance (lib : Libraries) (inputs : Inputs) (raw : Bytes) (g : Gateway) : Option (String × BitVec 64) :=
  match decodeFrame raw with
  | .error _ => none
  | .ok decoded =>
    if IsPostWake decoded.header then (acceptingNode lib inputs decoded g).map (·, decoded.header.nonce) else none

def Event.acceptance (lib : Libraries) (g : Gateway) : Event → Option (String × BitVec 64)
  | .frame inputs raw => Engine.acceptance lib inputs raw g
  | _ => none

def Event.acceptedIn (lib : Libraries) (number : Nat) (g : Gateway) (event : Event) : Option (BitVec 64) := do
  let (nodeId, seq) ← event.acceptance lib g
  let session ← g.sessionManager.getSession nodeId
  if session.number = number then some seq else none

def acceptedSeqs (lib : Libraries) (number : Nat) : Gateway → List Event → List (BitVec 64)
  | _, [] => []
  | g, event :: events =>
    (event.acceptedIn lib number g).toList ++ acceptedSeqs lib number (g.step lib event) events

variable {raw : Bytes} {session : Session} {m : SessionManager}

section
variable {lib : Libraries} {inputs : Inputs} {decoded : DecodedFrame} {before g : Gateway}

theorem handlePeerRequest_sessions : Fixes Gateway.sessionManager (handlePeerRequest lib inputs decoded) :=
  .bind authenticatePhone_fixes fun _ => .bind (orDiscard_fixes _) fun _ => .bind (orDiscard_fixes _) fun _ =>
    .ite (.stop _) (.ite (.stop _) (.bind (registerPeer_fixes (fun _ _ => rfl) _ _) fun _ =>
      encodeResponse_fixes (fun _ _ => rfl) _ _ _ _ _))

structure WakeStep (inputs : Inputs) (nodeId : String) (m m' : SessionManager) : Prop extends SessionStep nodeId m m' where
  fresh : ∀ id session, m'.sessions id = some session → m.created ≤ session.number →
    inputs.random = some session.nextExpectedSeq

variable {node : NodeRecord}

theorem WakeStep.transferred {nodeId : String} {m' : SessionManager} (step : WakeStep inputs nodeId m m') (command : CommandPayload) :
    WakeStep inputs nodeId m (transferred nodeId command m') where
  toSessionStep := step.toSessionStep.transferred command
  fresh := by
    intro id session found fresh
    by_cases here : id = nodeId
    · subst here
      rw [transferred_sessions] at found
      obtain ⟨previous, present, rfl⟩ := Option.map_eq_some_iff.mp found
      exact step.fresh _ previous present fresh
    · rw [((SessionStep.refl nodeId m').transferred command).others id here] at found
      exact step.fresh id session found fresh

theorem handleWake_step {header : FrameHeader} {payload : Bytes} (step : WakeStep inputs node.nodeId m g.sessionManager) :
    WakeStep inputs node.nodeId m (handleWake lib inputs node header payload g).2.sessionManager := by
  rcases handleWake_final lib inputs node header payload g with
    unchanged | ⟨_, command, t, opened, _, _, _, _, after, -⟩
  · rwa [unchanged]
  rw [after]
  rcases opened with rfl | ⟨seq, commands, drawn, rfl⟩
  · exact step.transferred command
  refine .transferred ⟨step.toSessionStep.createSession _ _ _ _, ?_⟩ command
  intro nodeId session found fresh
  by_cases here : nodeId = node.nodeId
  · subst here
    simp only [SessionManager.createSession, Function.update_self, Option.some.injEq] at found
    rw [drawn, ← found]
  · refine step.fresh nodeId session ?_ fresh
    simpa only [SessionManager.createSession, Function.update_of_ne here] using found

theorem postWake_run (decodes : decodeFrame raw = .ok decoded) (postWake : IsPostWake decoded.header) :
    processFrame lib inputs raw = (do
      let (node, payload) ← authenticateNode lib inputs decoded
      handlePostWake lib inputs node decoded.header payload) := by
  have other : decoded.header.msgType ≠ msgPeerRequest ∧ decoded.header.msgType ≠ msgDiagRequest ∧
      decoded.header.msgType ≠ msgWake := by
    rcases postWake with type | type | type <;> rw [type] <;> decide
  unfold IsPostWake at postWake
  unfold processFrame handleNodeFrame
  rw [decodes]
  funext g
  simp only [Except.toOption, orDiscard, bind_run, pure_run, if_neg other.1, if_neg other.2.1, if_neg other.2.2,
    if_pos postWake]

def Untouched (inputs : Inputs) (g g' : Gateway) : Prop :=
  g' = g ∨ ∃ nodeId session, g.sessionManager.getSession nodeId = some session ∧
    inputs.instant - session.createdAt > g.sessionManager.timeout ∧
    g' = { g with sessionManager := g.sessionManager.removeSession nodeId }

def Promoted (lib : Libraries) (inputs : Inputs) (decoded : DecodedFrame) (g g' : Gateway) : Prop :=
  nodesByKeyHint decoded.header.keyHint g = [] ∧
    ∃ node payload, (tryRecoveryAuth lib inputs decoded g).1 = .ok (node, payload) ∧
      g'.nodes = g.nodes.insert node.nodeId node

variable (lib inputs decoded g) in
theorem tryRecoveryAuth_cases :
    (tryRecoveryAuth lib inputs decoded g).2 = g ∨
      ∃ node payload pendingRecovery, tryRecoveryAuth lib inputs decoded g =
        (.ok (node, payload), { g with nodes := g.nodes.insert node.nodeId node, pendingRecovery }) := by
  unfold tryRecoveryAuth guardFault upsertNode onlyIf
  simp only [bind_run, read_run, ite_run]
  cases (if g.sqliteStorage then g.cachedMasterKeyId else none) with
  | none => exact .inl rfl
  | some keyId =>
    cases inputs.fault .pendingRecovery with
    | true => exact .inl rfl
    | false =>
      simp only [orDiscard, pure_run, reduceCtorEq, if_false]
      cases openingNode lib decoded (recoveryCandidates decoded keyId g) with
      | none => exact .inl rfl
      | some opened =>
        cases inputs.fault .promoteNode with
        | true => exact .inl rfl
        | false =>
          refine .inr ⟨opened.1, opened.2, ?_⟩
          cases inputs.fault .deletePendingRecovery with
          | true => exact ⟨_, rfl⟩
          | false => exact ⟨_, rfl⟩

variable (lib inputs decoded g) in
theorem authenticateNode_cases :
    (authenticateNode lib inputs decoded g).2 = g ∨
      (Promoted lib inputs decoded g (authenticateNode lib inputs decoded g).2 ∧
        ∃ nodes pendingRecovery, (authenticateNode lib inputs decoded g).2 = { g with nodes, pendingRecovery }) := by
  unfold authenticateNode guardFault
  simp only [bind_run, read_run, ite_run]
  cases inputs.fault .nodesByKeyHint with
  | true => exact .inl rfl
  | false =>
    by_cases unknown : nodesByKeyHint decoded.header.keyHint g = []
    · simp only [pure_run, reduceCtorEq, if_false, if_pos unknown]
      rcases tryRecoveryAuth_cases lib inputs decoded g with same | ⟨node, payload, pendingRecovery, run⟩
      · exact .inl same
      · refine .inr ⟨⟨unknown, node, payload, ?_, ?_⟩, ?_⟩
        · rw [run]
        · rw [run]
        · rw [run]
          exact ⟨_, _, rfl⟩
    · simp only [pure_run, reduceCtorEq, if_false, if_neg unknown]
      have fixed : Fixes id (orDiscard (openingNode lib decoded (nodesByKeyHint decoded.header.keyHint g))) :=
        orDiscard_fixes _
      exact .inl (fixed g)

end

/-! ## Runs -/

structure Numbered (m : SessionManager) : Prop where
  created : ∀ nodeId session, m.sessions nodeId = some session → session.number < m.created
  distinct : ∀ a b s t, m.sessions a = some s → m.sessions b = some t → s.number = t.number → a = b

structure Unadvanced (m m' : SessionManager) : Prop where
  created : m.created ≤ m'.created
  origin : ∀ nodeId after, m'.sessions nodeId = some after →
    (∃ before, m.sessions nodeId = some before ∧ after.number = before.number ∧
      after.nextExpectedSeq = before.nextExpectedSeq) ∨
    (m.created ≤ after.number ∧ after.number < m'.created)
  single : ∀ a b s t, m'.sessions a = some s → m'.sessions b = some t → m.created ≤ s.number → m.created ≤ t.number → a = b

variable {nodeId : String} {m' : SessionManager}

theorem SessionStep.unadvanced (numbered : Numbered m) (step : SessionStep nodeId m m') : Unadvanced m m' := by
  have here : ∀ id after, m'.sessions id = some after → m.created ≤ after.number → id = nodeId := by
    intro id after found fresh
    by_contra other
    have old := numbered.created id after ((step.others id other).symm.trans found)
    omega
  refine ⟨step.created, ?_, fun a b s t foundA foundB freshA freshB => ?_⟩
  · intro id after found
    by_cases same : id = nodeId
    · subst same
      exact step.here after found
    · exact .inl ⟨after, (step.others id same).symm.trans found, rfl, rfl⟩
  · rw [here a s foundA freshA, here b t foundB freshB]

theorem Unadvanced.closing (numbered : Numbered m) (created : m'.created = m.created)
    (kept : ∀ nodeId session, m'.sessions nodeId = some session → m.sessions nodeId = some session) : Unadvanced m m' := by
  refine ⟨created.ge, fun nodeId after found => .inl ⟨after, kept nodeId after found, rfl, rfl⟩, ?_⟩
  intro a b s t foundA _ fresh _
  have old := numbered.created a s (kept a s foundA)
  omega

theorem Unadvanced.refl (numbered : Numbered m) : Unadvanced m m := .closing numbered rfl fun _ _ found => found

theorem Numbered.unadvanced (numbered : Numbered m) (kept : Unadvanced m m') : Numbered m' := by
  constructor
  · intro nodeId after found
    rcases kept.origin nodeId after found with ⟨before, old, number, -⟩ | ⟨-, bound⟩
    · have below := numbered.created nodeId before old
      have created := kept.created
      omega
    · exact bound
  · intro a b s t foundA foundB same
    rcases kept.origin a s foundA with ⟨s', oldA, numberA, -⟩ | ⟨freshA, -⟩
    · have belowA := numbered.created a s' oldA
      rcases kept.origin b t foundB with ⟨t', oldB, numberB, -⟩ | ⟨freshB, -⟩
      · exact numbered.distinct a b s' t' oldA oldB (by omega)
      · omega
    · exact kept.single a b s t foundA foundB freshA (by omega)

theorem Numbered.advance (numbered : Numbered m)
    (found : m.sessions nodeId = some session) (advance : SessionAdvance nodeId session m m') : Numbered m' := by
  have origin : ∀ id after, m'.sessions id = some after → ∃ before, m.sessions id = some before ∧
      after.number = before.number := by
    intro id after present
    by_cases same : id = nodeId
    · subst same
      obtain ⟨current, here, number, -⟩ := advance.here
      obtain rfl : current = after := Option.some.inj (here.symm.trans present)
      exact ⟨session, found, number⟩
    · exact ⟨after, (advance.others id same).symm.trans present, rfl⟩
  constructor
  · intro id after present
    obtain ⟨before, old, number⟩ := origin id after present
    rw [number, advance.created]
    exact numbered.created id before old
  · intro a b s t foundA foundB same
    obtain ⟨s', oldA, numberA⟩ := origin a s foundA
    obtain ⟨t', oldB, numberB⟩ := origin b t foundB
    exact numbered.distinct a b s' t' oldA oldB (by omega)

section
variable {lib : Libraries} {inputs : Inputs} {g : Gateway}

theorem WakeStep.refl (numbered : Numbered m) (nodeId : String) : WakeStep inputs nodeId m m where
  toSessionStep := .refl nodeId m
  fresh := by
    intro id session found fresh
    have old := numbered.created id session found
    omega

variable {decoded : DecodedFrame}

variable (lib inputs decoded) in
theorem authenticateNode_sessions : Fixes Gateway.sessionManager (authenticateNode lib inputs decoded) :=
  authenticateNode_fixes fun _ _ _ => rfl

theorem otherFrame_step (lib : Libraries) (inputs : Inputs) (numbered : Numbered g.sessionManager)
    (decodes : decodeFrame raw = .ok decoded) (other : ¬IsPostWake decoded.header) :
    ∃ nodeId, WakeStep inputs nodeId g.sessionManager (processFrame lib inputs raw g).2.sessionManager := by
  have same {g' : Gateway} (sessions : g'.sessionManager = g.sessionManager) :
      ∃ nodeId, WakeStep inputs nodeId g.sessionManager g'.sessionManager := by
    rw [sessions]
    exact ⟨"", .refl numbered ""⟩
  unfold IsPostWake at other
  unfold processFrame
  rw [decodes, bind_run]
  simp only [Except.toOption, orDiscard, pure_run, ite_run]
  split
  · exact same (handlePeerRequest_sessions g)
  split
  · exact same (handleDiagRequest_fixes (fun _ _ => rfl) g)
  unfold handleNodeFrame
  rw [bind_run]
  have sessions := authenticateNode_sessions lib inputs decoded g
  cases run : authenticateNode lib inputs decoded g with
  | mk result g' =>
    rw [run] at sessions
    cases result with
    | error e => exact same sessions
    | ok authentic =>
      obtain ⟨node, payload⟩ := authentic
      simp only [ite_run, if_neg other]
      split
      · refine ⟨node.nodeId, handleWake_step ?_⟩
        dsimp only at sessions ⊢
        rw [sessions]
        exact .refl numbered node.nodeId
      · exact same sessions

def Advances (accepted : Option (String × BitVec 64)) (m m' : SessionManager) : Prop :=
  ∃ nodeId session, accepted = some (nodeId, session.nextExpectedSeq) ∧ m.sessions nodeId = some session ∧
    SessionAdvance nodeId session m m'

theorem postWake_cases (lib : Libraries) (inputs : Inputs) (g : Gateway) (decodes : decodeFrame raw = .ok decoded)
    (postWake : IsPostWake decoded.header) :
    Advances (acceptance lib inputs raw g) g.sessionManager (processFrame lib inputs raw g).2.sessionManager ∨
    (acceptance lib inputs raw g = none ∧
      Untouched inputs (authenticateNode lib inputs decoded g).2 (processFrame lib inputs raw g).2) := by
  have sessions := authenticateNode_sessions lib inputs decoded g
  rw [postWake_run decodes postWake, bind_run]
  unfold acceptance acceptingNode
  rw [decodes]
  simp only [if_pos postWake]
  cases run : authenticateNode lib inputs decoded g with
  | mk result g' =>
    rw [run] at sessions
    cases result with
    | error e => exact .inr ⟨rfl, .inl rfl⟩
    | ok authentic =>
      obtain ⟨node, payload⟩ := authentic
      dsimp only at sessions ⊢
      rcases handlePostWake_cases lib inputs node decoded.header payload g' with
        ⟨rejects, refused⟩ | ⟨accepts, message, session, -, found, expected, -, outcome⟩
      · refine .inr ⟨?_, refused.imp_right fun dropped => ⟨node.nodeId, dropped⟩⟩
        rw [if_neg rejects]
        rfl
      · have advance := outcome.advance
        rw [sessions] at found advance
        refine .inl ⟨node.nodeId, session, ?_, found, advance⟩
        rw [if_pos accepts, expected]
        rfl

theorem WakeStep.removeSession (numbered : Numbered m) (nodeId : String) :
    WakeStep inputs nodeId m (m.removeSession nodeId) where
  created := le_refl _
  others id other := Function.update_of_ne other _ _
  here := by
    intro after found
    simp [SessionManager.removeSession] at found
  fresh := by
    intro id session found fresh
    by_cases here : id = nodeId
    · subst here
      simp [SessionManager.removeSession] at found
    · simp only [SessionManager.removeSession, Function.update_of_ne here] at found
      have old := numbered.created id session found
      omega

theorem frame_cases (lib : Libraries) (inputs : Inputs) (raw : Bytes) (numbered : Numbered g.sessionManager) :
    Advances (acceptance lib inputs raw g) g.sessionManager (processFrame lib inputs raw g).2.sessionManager ∨
    (acceptance lib inputs raw g = none ∧
      ∃ nodeId, WakeStep inputs nodeId g.sessionManager (processFrame lib inputs raw g).2.sessionManager) := by
  cases decodes : decodeFrame raw with
  | error e =>
    have same : (processFrame lib inputs raw g).2 = g := by
      unfold processFrame
      rw [decodes]
      rfl
    rw [same]
    exact .inr ⟨by simp [acceptance, decodes], "", WakeStep.refl numbered ""⟩
  | ok decoded =>
    by_cases postWake : IsPostWake decoded.header
    · rcases postWake_cases lib inputs g decodes postWake with accepted | ⟨rejected, untouched⟩
      · exact .inl accepted
      · refine .inr ⟨rejected, ?_⟩
        rw [← authenticateNode_sessions lib inputs decoded g] at numbered ⊢
        rcases untouched with same | ⟨nodeId, session, -, -, same⟩
        · rw [same]
          exact ⟨"", .refl numbered ""⟩
        · rw [same]
          exact ⟨nodeId, .removeSession numbered nodeId⟩
    · exact .inr ⟨by simp [acceptance, decodes, postWake], otherFrame_step lib inputs numbered decodes postWake⟩

theorem step_cases (numbered : Numbered g.sessionManager) (event : Event) :
    Advances (event.acceptance lib g) g.sessionManager (g.step lib event).sessionManager ∨
    (event.acceptance lib g = none ∧ Unadvanced g.sessionManager (g.step lib event).sessionManager) := by
  cases event with
  | frame inputs raw =>
    rcases frame_cases lib inputs raw numbered with accepted | ⟨rejected, nodeId, step⟩
    · exact .inl accepted
    · exact .inr ⟨rejected, step.toSessionStep.unadvanced numbered⟩
  | wakeBlobReply inputs index =>
    have same : (g.step lib (.wakeBlobReply inputs index)).sessionManager = g.sessionManager :=
      wakeBlobReply_fixes (fun _ _ _ _ => rfl) lib inputs index g
    refine .inr ⟨rfl, ?_⟩
    rw [same]
    exact .refl numbered
  | admin action =>
    refine .inr ⟨rfl, .closing numbered rfl fun id session found => ?_⟩
    simp only [Gateway.step, Gateway.administer] at found
    split at found
    · cases found
    · exact found

theorem Numbered.step (numbered : Numbered g.sessionManager) (event : Event) :
    Numbered (g.step lib event).sessionManager := by
  rcases step_cases numbered event with ⟨nodeId, session, -, found, advance⟩ | ⟨-, kept⟩
  · exact numbered.advance found advance
  · exact numbered.unadvanced kept

theorem Numbered.run (numbered : Numbered g.sessionManager) (events : List Event) :
    Numbered (g.run lib events).sessionManager := by
  induction events generalizing g with
  | nil => exact numbered
  | cons event events ih => exact ih (numbered.step event)

theorem Started.numbered (started : Started g) : Numbered g.sessionManager := by
  constructor <;> simp [started.sessions]

def Current (number : Nat) (seq : BitVec 64) (m : SessionManager) : Prop :=
  ∃ nodeId session, m.sessions nodeId = some session ∧ session.number = number ∧ session.nextExpectedSeq = seq

structure Ended (number : Nat) (m : SessionManager) : Prop where
  created : number < m.created
  absent : ∀ nodeId session, m.sessions nodeId = some session → session.number ≠ number

theorem acceptedIn_accepted {event : Event} (number : Nat)
    (accepts : event.acceptance lib g = some (nodeId, session.nextExpectedSeq))
    (found : g.sessionManager.sessions nodeId = some session) :
    event.acceptedIn lib number g = if session.number = number then some session.nextExpectedSeq else none := by
  simp [Event.acceptedIn, accepts, SessionManager.getSession, found]

theorem acceptedIn_rejected {event : Event} (number : Nat) (rejects : event.acceptance lib g = none) :
    event.acceptedIn lib number g = none := by
  simp [Event.acceptedIn, rejects]

variable {number : Nat}

theorem Ended.step (lib : Libraries) (numbered : Numbered g.sessionManager) (ended : Ended number g.sessionManager)
    (event : Event) : event.acceptedIn lib number g = none ∧ Ended number (g.step lib event).sessionManager := by
  rcases step_cases numbered event with ⟨nodeId, session, accepts, found, advance⟩ | ⟨rejects, kept⟩
  · have other := ended.absent nodeId session found
    refine ⟨?_, advance.created ▸ ended.created, fun id after present => ?_⟩
    · rw [acceptedIn_accepted number accepts found, if_neg other]
    · by_cases here : id = nodeId
      · subst here
        obtain ⟨current, here, same, -⟩ := advance.here
        obtain rfl : current = after := Option.some.inj (here.symm.trans present)
        rwa [same]
      · exact ended.absent id after ((advance.others id here).symm.trans present)
  · refine ⟨acceptedIn_rejected number rejects, ended.created.trans_le kept.created, fun id after present => ?_⟩
    rcases kept.origin id after present with ⟨before, old, same, -⟩ | ⟨fresh, -⟩
    · rw [same]
      exact ended.absent id before old
    · exact (ended.created.trans_le fresh).ne'

theorem Current.step (lib : Libraries) {seq : BitVec 64} (numbered : Numbered g.sessionManager)
    (current : Current number seq g.sessionManager) (event : Event) :
    (event.acceptedIn lib number g = some seq ∧ Current number (seq + 1) (g.step lib event).sessionManager) ∨
    (event.acceptedIn lib number g = none ∧
      (Current number seq (g.step lib event).sessionManager ∨ Ended number (g.step lib event).sessionManager)) := by
  obtain ⟨nodeId, session, found, rfl, rfl⟩ := current
  rcases step_cases numbered event with ⟨id, accepting, accepts, present, advance⟩ | ⟨rejects, kept⟩
  · rw [acceptedIn_accepted session.number accepts present]
    by_cases same : accepting.number = session.number
    · obtain rfl := numbered.distinct id nodeId accepting session present found same
      obtain rfl : accepting = session := Option.some.inj (present.symm.trans found)
      obtain ⟨after, here, number, next⟩ := advance.here
      exact .inl ⟨if_pos rfl, id, after, here, number, next⟩
    · refine .inr ⟨if_neg same, .inl ⟨nodeId, session, ?_, rfl, rfl⟩⟩
      have apart : nodeId ≠ id := by
        rintro rfl
        exact same (congrArg Session.number (Option.some.inj (present.symm.trans found)))
      rw [advance.others nodeId apart, found]
  · refine .inr ⟨acceptedIn_rejected session.number rejects, ?_⟩
    have created := numbered.created nodeId session found
    by_cases remains : ∃ id after, (g.step lib event).sessionManager.sessions id = some after ∧
        after.number = session.number
    · obtain ⟨id, after, present, number⟩ := remains
      rcases kept.origin id after present with ⟨before, old, same, next⟩ | ⟨fresh, -⟩
      · obtain rfl := numbered.distinct id nodeId before session old found (same.symm.trans number)
        obtain rfl : before = session := Option.some.inj (old.symm.trans found)
        exact .inl ⟨id, after, present, number, next⟩
      · omega
    · push Not at remains
      exact .inr ⟨created.trans_le kept.created, remains⟩

theorem acceptedSeqs_ended (numbered : Numbered g.sessionManager) (ended : Ended number g.sessionManager)
    (events : List Event) : acceptedSeqs lib number g events = [] := by
  induction events generalizing g with
  | nil => rfl
  | cons event events ih =>
    obtain ⟨rejects, stays⟩ := ended.step lib numbered event
    rw [acceptedSeqs, rejects, ih (numbered.step event) stays]
    rfl

theorem acceptedSeqs_current {seq : BitVec 64} (numbered : Numbered g.sessionManager)
    (current : Current number seq g.sessionManager) (events : List Event) :
    ∃ n, acceptedSeqs lib number g events = (range n).map fun i => seq + BitVec.ofNat 64 i := by
  induction events generalizing g seq with
  | nil => exact ⟨0, rfl⟩
  | cons event events ih =>
    rcases current.step lib numbered event with ⟨accepts, next⟩ | ⟨rejects, stays | ended⟩
    · obtain ⟨n, rest⟩ := ih (numbered.step event) next
      refine ⟨n + 1, ?_⟩
      have shifted (i : Nat) : seq + 1 + BitVec.ofNat 64 i = seq + BitVec.ofNat 64 (i + 1) := by bv_omega
      simp only [shifted] at rest
      rw [acceptedSeqs, accepts, rest, range_succ_eq_map, map_cons, map_map]
      simp [Function.comp_def]
    · obtain ⟨n, rest⟩ := ih (numbered.step event) stays
      exact ⟨n, by rw [acceptedSeqs, rejects, rest]; rfl⟩
    · exact ⟨0, by rw [acceptedSeqs, rejects, acceptedSeqs_ended (numbered.step event) ended]; rfl⟩

theorem range_seqs_nodup (seq : BitVec 64) {n : Nat} (few : n ≤ 2 ^ 64) :
    ((range n).map fun i => seq + BitVec.ofNat 64 i).Nodup := by
  refine Nodup.map_on ?_ nodup_range
  intro i below j below' same
  rw [mem_range] at below below'
  have values := congrArg BitVec.toNat ((BitVec.add_right_inj seq).mp same)
  rwa [BitVec.toNat_ofNat, BitVec.toNat_ofNat, Nat.mod_eq_of_lt (by omega), Nat.mod_eq_of_lt (by omega)] at values

theorem opened_random (numbered : Numbered g.sessionManager)
    (found : (processFrame lib inputs raw g).2.sessionManager.sessions nodeId = some session)
    (fresh : g.sessionManager.created ≤ session.number) : inputs.random = some session.nextExpectedSeq := by
  rcases frame_cases lib inputs raw numbered with ⟨id, accepting, -, present, advance⟩ | ⟨-, id, step⟩
  · have below := (numbered.advance present advance).created nodeId session found
    rw [advance.created] at below
    omega
  · exact step.fresh nodeId session found fresh

theorem rejected_untouched (decodes : decodeFrame raw = .ok decoded)
    (postWake : IsPostWake decoded.header) (rejected : acceptance lib inputs raw g = none) :
    ∃ g', Untouched inputs g' (processFrame lib inputs raw g).2 ∧ g'.pendingCommands = g.pendingCommands ∧
      g'.outputs = g.outputs ∧ g'.sessionManager = g.sessionManager ∧
      (g'.nodes = g.nodes ∨ Promoted lib inputs decoded g g') := by
  refine ⟨(authenticateNode lib inputs decoded g).2, ?_, ?_⟩
  · rcases postWake_cases lib inputs g decodes postWake with ⟨nodeId, session, accepts, -⟩ | ⟨-, untouched⟩
    · rw [accepts] at rejected
      cases rejected
    · exact untouched
  · rcases authenticateNode_cases lib inputs decoded g with same | ⟨promoted, nodes, pendingRecovery, same⟩
    · rw [same]
      exact ⟨rfl, rfl, rfl, .inl rfl⟩
    · refine ⟨?_, ?_, ?_, .inr promoted⟩
      · rw [same]
      · rw [same]
      · rw [same]

end

/-- A session accepts post-WAKE frames with consecutive sequence numbers, from the number drawn for it on. A rejected
one leaves the commands and the handlers alone, removes no session but an expired one, and changes no node record
unless the frame promotes its node. -/
theorem session_replay_protection (lib : Libraries) (g : Gateway) (started : Started g) (earlier : List Event)
    (inputs : Inputs) (raw : Bytes) (reached next : Gateway) (reaches : reached = g.run lib earlier)
    (steps : next = (processFrame lib inputs raw reached).2) :
    (∀ nodeId session, next.sessionManager.getSession nodeId = some session →
      reached.sessionManager.created ≤ session.number → inputs.random = some session.nextExpectedSeq ∧
      ∀ later, ∃ n, acceptedSeqs lib session.number next later =
          ((List.range n).map fun i => session.nextExpectedSeq + BitVec.ofNat 64 i) ∧
        (n ≤ 2 ^ 64 → (acceptedSeqs lib session.number next later).Nodup)) ∧
    (∀ decoded, decodeFrame raw = .ok decoded → IsPostWake decoded.header → acceptance lib inputs raw reached = none →
      next.pendingCommands = reached.pendingCommands ∧ next.outputs = reached.outputs ∧
      (∀ nodeId, next.sessionManager.getSession nodeId = reached.sessionManager.getSession nodeId ∨
        ∃ session, reached.sessionManager.getSession nodeId = some session ∧
          inputs.instant - session.createdAt > reached.sessionManager.timeout ∧
          next.sessionManager.getSession nodeId = none) ∧
      (next.nodes = reached.nodes ∨ Promoted lib inputs decoded reached next)) := by
  have numbered : Numbered reached.sessionManager := reaches ▸ started.numbered.run earlier
  subst steps
  constructor
  · intro nodeId session found fresh
    have current : Current session.number session.nextExpectedSeq (processFrame lib inputs raw reached).2.sessionManager :=
      ⟨nodeId, session, found, rfl, rfl⟩
    refine ⟨opened_random numbered found fresh, fun later => ?_⟩
    obtain ⟨n, seqs⟩ := acceptedSeqs_current (numbered.step (.frame inputs raw)) current later
    exact ⟨n, seqs, fun few => seqs ▸ range_seqs_nodup _ few⟩
  · intro decoded decodes postWake rejected
    obtain ⟨middle, untouched, commands, handlers, sessions, nodes⟩ := rejected_untouched decodes postWake rejected
    rcases untouched with same | ⟨nodeId, session, found, late, same⟩
    · rw [same]
      exact ⟨commands, handlers, fun id => .inl (by rw [sessions]), nodes⟩
    · rw [same]
      refine ⟨commands, handlers, fun id => ?_, nodes⟩
      rw [sessions] at found late ⊢
      by_cases here : id = nodeId
      · subst here
        exact .inr ⟨session, found, late, Function.update_self ..⟩
      · exact .inl (Function.update_of_ne here _ _)

def smallAppData (nonce : BitVec 64) : Event := .frame smallInputs (smallFrame nonce (.appData [3]) 7)

def smallWoken : Gateway := (processFrame plainLib smallInputs (smallWake 1) smallGateway).2

theorem session_replay_protection_small :
    acceptedSeqs plainLib 0 smallWoken [smallAppData 5, smallAppData 5, smallAppData 6] = [5, 6] ∧
    (∃ n, acceptedSeqs plainLib 0 smallWoken [smallAppData 5, smallAppData 5, smallAppData 6] =
        ((List.range n).map fun i => 5 + BitVec.ofNat 64 i) ∧
      (n ≤ 2 ^ 64 → (acceptedSeqs plainLib 0 smallWoken [smallAppData 5, smallAppData 5, smallAppData 6]).Nodup)) ∧
    (processFrame plainLib smallInputs (smallFrame 9 (.appData [3]) 7) smallWoken).2.pendingCommands =
      smallWoken.pendingCommands := by
  refine ⟨by decide +kernel, ?_, ?_⟩
  · obtain ⟨session, found, number, seq⟩ : ∃ session, smallWoken.sessionManager.getSession "n" = some session ∧
        session.number = 0 ∧ session.nextExpectedSeq = 5 := ⟨_, rfl, rfl, rfl⟩
    have opened := (session_replay_protection plainLib smallGateway smallGateway_started [] smallInputs (smallWake 1)
      smallGateway smallWoken rfl rfl).1 "n" session found (Nat.zero_le _)
    rw [number, seq] at opened
    exact opened.2 _
  · obtain ⟨decoded, decodes, postWake⟩ : ∃ decoded, decodeFrame (smallFrame 9 (.appData [3]) 7) = .ok decoded ∧
        IsPostWake decoded.header := ⟨_, rfl, by decide +kernel⟩
    exact ((session_replay_protection plainLib smallGateway smallGateway_started [.frame smallInputs (smallWake 1)]
      smallInputs (smallFrame 9 (.appData [3]) 7) smallWoken _ rfl rfl).2 decoded decodes postWake (by decide +kernel)).1

def recoveringGateway : Gateway :=
  { smallGateway with
    nodes := ∅
    sqliteStorage := true
    cachedMasterKeyId := some 0
    pendingRecovery := [⟨0, "n", 0, some 7⟩] }

theorem rejected_frame_creates_record : Started recoveringGateway ∧
    (decodeFrame (smallFrame 5 (.appData [3]) 7)).toOption.map (·.header.msgType) = some msgAppData ∧
    acceptance plainLib smallInputs (smallFrame 5 (.appData [3]) 7) recoveringGateway = none ∧
    recoveringGateway.nodes.lookup "n" = none ∧
    (processFrame plainLib smallInputs (smallFrame 5 (.appData [3]) 7) recoveringGateway).2.nodes.lookup "n" =
      some (NodeRecord.new "n" 0 7) := by
  refine ⟨⟨fun _ => rfl, rfl⟩, ?_, ?_, ?_, ?_⟩
  · decide +kernel
  · decide +kernel
  · decide +kernel
  · decide +kernel

end Sonde.Engine
