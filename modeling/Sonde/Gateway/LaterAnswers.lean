import Sonde.Gateway.Attribution
import Sonde.Lib.Coupling

namespace Sonde.Engine
open Lib Lib.Program Protocol Sonde.Gateway Option

/-- A frame that the gateway takes to be one of the node, or a handler's reply to a WAKE blob. -/
inductive Followup where
  | frame (inputs : Inputs) (header : FrameHeader) (payload : Bytes)
  | wakeBlobReply (inputs : Inputs) (index : Nat)

section
variable (lib : Libraries) (nodeId : String)

def Followup.run (g : Gateway) : Followup → Option Bytes × Gateway
  | .frame inputs header payload =>
    match g.nodes.lookup nodeId with
    | none => (none, g)
    | some node =>
      let handled := handleAs lib inputs node header payload g
      (handled.1.toOption, handled.2)
  | .wakeBlobReply inputs index => (none, g.step lib (.wakeBlobReply inputs index))

def responses (g : Gateway) : List Followup → List (Option Bytes)
  | [] => []
  | event :: events => (event.run lib nodeId g).1 :: responses (event.run lib nodeId g).2 events

/-- The frame does not belong to the session that a WAKE with this nonce has opened: the node sends another nonce now, and
nobody has told it the sequence number. -/
def Followup.Own (nonce : BitVec 64) (g : Gateway) : Followup → Prop
  | .frame _ header _ => ∀ session, g.sessionManager.sessions nodeId = some session → session.wakeNonce = nonce →
      header.nonce ≠ if header.msgType = msgWake then nonce else session.nextExpectedSeq
  | .wakeBlobReply _ _ => True

def AllOwn (nonce : BitVec 64) (g : Gateway) : List Followup → Prop
  | [] => True
  | event :: events => event.Own nodeId nonce g ∧ AllOwn nonce (event.run lib nodeId g).2 events

end

/-! ## Gateways that answer alike -/

def routed (handlers : List (List ProgramMatcher)) (current : Option Bytes) : Option (Bytes × Nat) :=
  current.bind fun programHash => (findHandler handlers programHash).map (programHash, ·)

def unnumbered (session : Session) : Session := { session with number := 0 }

def SessionsAlike (nonce : BitVec 64) (session session' : Option Session) : Prop :=
  session.map unnumbered = session'.map unnumbered ∨
    (session' = none ∧ ∀ left, session = some left → left.wakeNonce = nonce)

def Holds (core : RowCore) (current : Option Bytes) (g : Gateway) : Prop :=
  ∃ row, g.nodes.lookup core.nodeId = some row ∧ rowCore row = core ∧ row.currentProgramHash = current

structure AlikeWith (core : RowCore) (handlers : List (List ProgramMatcher)) (nonce : BitVec 64)
    (current current' : Option Bytes) (g g' : Gateway) : Prop where
  programs : g.programs = g'.programs
  handlers : g.handlers = handlers ∧ g'.handlers = handlers
  queue : g.pendingCommands core.nodeId = g'.pendingCommands core.nodeId
  deferred : g.deferredReplies = g'.deferredReplies
  tasks : g.wakeBlobTasks = g'.wakeBlobTasks
  timeout : g.sessionManager.timeout = g'.sessionManager.timeout
  sessions : SessionsAlike nonce (g.sessionManager.sessions core.nodeId) (g'.sessionManager.sessions core.nodeId)
  here : Holds core current g
  there : Holds core current' g'

def Alike (core : RowCore) (handlers : List (List ProgramMatcher)) (nonce : BitVec 64) (g g' : Gateway) : Prop :=
  ∃ current current', routed handlers current = routed handlers current' ∧ AlikeWith core handlers nonce current current' g g'

section
variable {nonce : BitVec 64} {session session' : Option Session}

theorem numbered_eq {s s' : Session} (same : unnumbered s' = unnumbered s) : s' = { s with number := s'.number } :=
  congrArg (fun any : Session => { any with number := s'.number }) same

theorem SessionsAlike.setState (alike : SessionsAlike nonce session session') (state : SessionState) :
    SessionsAlike nonce (session.map fun s => { s with state }) (session'.map fun s => { s with state }) := by
  have commute (s : Option Session) : (s.map fun s => { s with state }).map unnumbered =
      (s.map unnumbered).map fun s => { s with state } := by
    rw [map_map, map_map]
    rfl
  rcases alike with same | ⟨rfl, left⟩
  · refine .inl ?_
    rw [commute, commute, same]
  · refine .inr ⟨rfl, fun s found => ?_⟩
    obtain ⟨before, here, rfl⟩ := map_eq_some_iff.mp found
    exact left before here

theorem retriedCommand_other {wakeNonce : BitVec 64} {s : Session} (apart : s.wakeNonce ≠ wakeNonce) :
    retriedCommand wakeNonce s = none := by
  unfold retriedCommand
  split
  · rw [if_neg apart]
  · rfl

theorem SessionsAlike.retried {wakeNonce : BitVec 64} (alike : SessionsAlike nonce session session')
    (other : ∀ s, session = some s → s.wakeNonce = nonce → wakeNonce ≠ nonce) :
    session.bind (retriedCommand wakeNonce) = session'.bind (retriedCommand wakeNonce) := by
  have anyNumber (s : Option Session) : s.bind (retriedCommand wakeNonce) =
      (s.map unnumbered).bind (retriedCommand wakeNonce) := by
    cases s with
    | none => rfl
    | some s => rfl
  rcases alike with same | ⟨rfl, left⟩
  · rw [anyNumber, same, ← anyNumber]
  · cases session with
    | none => rfl
    | some s =>
      have apart : s.wakeNonce ≠ wakeNonce := by
        rw [left s rfl]
        exact (other s rfl (left s rfl)).symm
      rw [bind_some, bind_none, retriedCommand_other apart]

end

section
variable {lib : Libraries} {inputs : Inputs} {core : RowCore} {handlers : List (List ProgramMatcher)} {row row' : NodeRecord}
  {nonce : BitVec 64} {header : FrameHeader} {payload : Bytes} {left : Gateway → Gateway → Prop}

variable {g : Gateway} {current current' : Option Bytes}

theorem Holds.update (holds : Holds core current g)
    {f : NodeRecord → NodeRecord} (same : ∀ row, rowCore (f row) = rowCore row)
    (sets : ∀ row, rowCore row = core → row.currentProgramHash = current → (f row).currentProgramHash = current') :
    Holds core current' { g with nodes := g.nodes.update core.nodeId f } := by
  obtain ⟨row, found, is, names⟩ := holds
  exact ⟨f row, by simp [found], (same row).trans is, sets row is names⟩

theorem orDiscard_couples {α : Type} {pre : Gateway → Gateway → Prop} {a : Option α}
    (early : ∀ g g', pre g g' → left g g') : Couples pre (orDiscard a) (orDiscard a) (fun _ => pre) left := by
  cases a with
  | none => exact .stop early
  | some b => exact .pure fun _ _ related => related

variable (core handlers row row') in
structure Snapshots : Prop where
  here : rowCore row = core
  there : rowCore row' = core
  routing : routed handlers row.currentProgramHash = routed handlers row'.currentProgramHash

theorem encodeResponse_couples {pre : Gateway → Gateway → Prop}
    (kept : ∀ g g' sealed sealed', pre g g' → pre { g with sealed } { g' with sealed := sealed' })
    (early : ∀ g g', pre g g' → left g g') (header : FrameHeader) (cbor : Bytes) (psk : Bytes32)
    (session session' : Option Nat) :
    Couples pre (encodeResponse lib header cbor psk session) (encodeResponse lib header cbor psk session') (fun _ => pre)
      left := by
  unfold encodeResponse
  cases encodeFrame lib.provider header cbor psk with
  | error e => exact .stop early
  | ok frame =>
    exact .bind (Q := fun _ => pre) (.update fun g g' related => kept g g' _ _ related) fun _ =>
      .pure fun _ _ related => related

def Gateway.withSession (nodeId : String) (session : Option Session) (g : Gateway) : Gateway :=
  { g with sessionManager := { g.sessionManager with sessions := Function.update g.sessionManager.sessions nodeId session } }

theorem verifyAndAdvanceSeq_eq (inputs : Inputs) (nodeId : String) (seq : BitVec 64) (g : Gateway) :
    verifyAndAdvanceSeq inputs nodeId seq g =
      match g.sessionManager.sessions nodeId with
      | none => (.error .discarded, g)
      | some session =>
        if inputs.instant - session.createdAt > g.sessionManager.timeout then (.error .discarded, g.withSession nodeId none)
        else if seq ≠ session.nextExpectedSeq then (.error .discarded, g)
        else (.ok (), g.withSession nodeId (some { session with nextExpectedSeq := session.nextExpectedSeq + 1 })) := by
  unfold verifyAndAdvanceSeq SessionManager.verifyAndAdvanceSeq
  cases g.sessionManager.sessions nodeId with
  | none => rfl
  | some session =>
    dsimp only
    split
    · rfl
    split
    · rfl
    · rfl

variable {g' : Gateway} (related : AlikeWith core handlers nonce current current' g g')

include related in
theorem AlikeWith.routed (nodeId : String)
    (wakeNonce : BitVec 64) (wake : WakeFields) : AlikeWith core handlers nonce current current'
      (routeWakeBlob inputs nodeId wakeNonce wake g).2 (routeWakeBlob inputs nodeId wakeNonce wake g').2 := by
  have readings (data : Bytes) : decoderReadings inputs .wakeBlobProgram wake.programHash data g =
      decoderReadings inputs .wakeBlobProgram wake.programHash data g' := by
    simp only [decoderReadings, related.programs]
  unfold routeWakeBlob
  cases wake.blob with
  | none => exact related
  | some data =>
    simp only [update_run, related.handlers, readings]
    split
    · exact related
    cases findHandler handlers wake.programHash with
    | none => exact { related with }
    | some handler => exact { related with tasks := by simp only [related.tasks] }

include related in
theorem AlikeWith.withSession
    {session session' : Option Session} (alike : SessionsAlike nonce session session') :
    AlikeWith core handlers nonce current current' (g.withSession core.nodeId session) (g'.withSession core.nodeId session') :=
  { related with sessions := by simpa [Gateway.withSession] using alike }

variable (core handlers nonce current current') in
structure InSession (g g' : Gateway) : Prop extends AlikeWith core handlers nonce current current' g g' where
  session : (g.sessionManager.sessions core.nodeId).map unnumbered = (g'.sessionManager.sessions core.nodeId).map unnumbered

variable (core handlers nonce current current') in
def OwnWith (fresh : Session → Prop) (g g' : Gateway) : Prop := AlikeWith core handlers nonce current current' g g' ∧
  ∀ session, g.sessionManager.sessions core.nodeId = some session → session.wakeNonce = nonce → fresh session

theorem verifyAndAdvanceSeq_couples {seq : BitVec 64} :
    Couples (OwnWith core handlers nonce current current' (seq ≠ ·.nextExpectedSeq))
      (verifyAndAdvanceSeq inputs core.nodeId seq) (verifyAndAdvanceSeq inputs core.nodeId seq)
      (fun _ => InSession core handlers nonce current current') (AlikeWith core handlers nonce current current') := by
  refine ⟨fun g g' ⟨related, own⟩ => ?_⟩
  rw [verifyAndAdvanceSeq_eq, verifyAndAdvanceSeq_eq]
  rcases related.sessions with same | ⟨gone, left⟩
  · cases found : g.sessionManager.sessions core.nodeId with
    | none =>
      rw [found] at same
      rw [map_eq_none_iff.mp same.symm]
      exact ⟨rfl, related⟩
    | some session =>
      rw [found] at same
      obtain ⟨session', found', equal⟩ := map_eq_some_iff.mp same.symm
      rw [found', numbered_eq equal]
      dsimp only
      rw [← related.timeout]
      by_cases expired : inputs.instant - session.createdAt > g.sessionManager.timeout
      · rw [if_pos expired, if_pos expired]
        exact ⟨rfl, related.withSession (.inl rfl)⟩
      rw [if_neg expired, if_neg expired]
      by_cases mismatch : seq ≠ session.nextExpectedSeq
      · rw [if_pos mismatch, if_pos mismatch]
        exact ⟨rfl, related⟩
      · rw [if_neg mismatch, if_neg mismatch]
        refine ⟨rfl, related.withSession (.inl rfl), ?_⟩
        simp [Gateway.withSession, unnumbered]
  · rw [gone]
    cases found : g.sessionManager.sessions core.nodeId with
    | none => exact ⟨rfl, related⟩
    | some session =>
      dsimp only
      by_cases expired : inputs.instant - session.createdAt > g.sessionManager.timeout
      · rw [if_pos expired]
        refine ⟨rfl, { related with sessions := .inr ⟨gone, ?_⟩ }⟩
        simp [Gateway.withSession]
      · rw [if_neg expired, if_pos (own session found (left session found))]
        exact ⟨rfl, related⟩

section
variable (snapshots : Snapshots core handlers row row')
include snapshots

theorem Snapshots.nodeId : row.nodeId = core.nodeId ∧ row'.nodeId = core.nodeId :=
  ⟨congrArg RowCore.nodeId snapshots.here, congrArg RowCore.nodeId snapshots.there⟩

theorem Snapshots.keyHint : row.keyHint = core.keyHint ∧ row'.keyHint = core.keyHint :=
  ⟨congrArg RowCore.keyHint snapshots.here, congrArg RowCore.keyHint snapshots.there⟩

theorem Snapshots.psk : row.psk = core.psk ∧ row'.psk = core.psk :=
  ⟨congrArg RowCore.psk snapshots.here, congrArg RowCore.psk snapshots.there⟩

theorem Snapshots.assigned : row.assignedProgramHash = core.assignedProgramHash ∧
    row'.assignedProgramHash = core.assignedProgramHash :=
  ⟨congrArg RowCore.assignedProgramHash snapshots.here, congrArg RowCore.assignedProgramHash snapshots.there⟩

theorem Snapshots.alike (g g' : Gateway)
    (related : AlikeWith core handlers nonce row.currentProgramHash row'.currentProgramHash g g') :
    Alike core handlers nonce g g' := ⟨_, _, snapshots.routing, related⟩

theorem Snapshots.inside (g g' : Gateway)
    (related : InSession core handlers nonce row.currentProgramHash row'.currentProgramHash g g') :
    Alike core handlers nonce g g' := snapshots.alike g g' related.toAlikeWith

theorem wakeCommand_couples {wake : WakeFields}
    (early : ∀ g g', AlikeWith core handlers nonce current current' g g' → left g g') :
    Couples (OwnWith core handlers nonce current current' fun _ => header.nonce ≠ nonce)
      (wakeCommand inputs row header.nonce wake) (wakeCommand inputs row' header.nonce wake)
      (fun _ => AlikeWith core handlers nonce current current') left := by
  refine .read_bind fun g g' ⟨related, own⟩ => ?_
  simp only [SessionManager.getSession, snapshots.nodeId, related.sessions.retried own]
  cases (g'.sessionManager.sessions core.nodeId).bind (retriedCommand header.nonce) with
  | some retried => exact .pure fun _ _ related => related.1
  | none =>
    refine .bind (orDiscard_couples fun g g' related => early g g' related.1) fun seq => ?_
    refine .bind (Q := fun _ => AlikeWith core handlers nonce current current')
      (.update fun g g' related => { related.1 with sessions := .inl ?_ }) fun _ => ?_
    · simp [SessionManager.createSession, unnumbered]
    · refine .bind ⟨fun g g' related => ?_⟩
        fun command => .pure fun _ _ related => related
      have visible (call : StorageCall) : visibleProgram inputs call g = visibleProgram inputs call g' := by
        funext programHash
        simp only [visibleProgram, related.programs]
      simp only [selectCommand, visible, snapshots.nodeId, snapshots.assigned, related.queue]
      exact ⟨trivial, { related with queue := by simp }⟩

theorem reconciled_routing (programHash : Bytes) :
    routed handlers (reconciled inputs row programHash) = routed handlers (reconciled inputs row' programHash) := by
  by_cases due : core.assignedProgramHash = some programHash ∧ inputs.fault .reconcile = false
  · rw [(reconciled_iff programHash).mpr (.inr ⟨snapshots.assigned.1.trans due.1, due.2⟩),
      (reconciled_iff programHash).mpr (.inr ⟨snapshots.assigned.2.trans due.1, due.2⟩)]
  · rw [reconciled, reconciled, if_neg fun fires => due ⟨snapshots.assigned.1.symm.trans fires.1, fires.2.2⟩,
      if_neg fun fires => due ⟨snapshots.assigned.2.symm.trans fires.1, fires.2.2⟩, snapshots.routing]

omit snapshots in
theorem Holds.woken (holds : Holds core row.currentProgramHash g) (is : rowCore row = core) (wake : WakeFields) :
    Holds core (reconciled inputs row wake.programHash)
      { g with nodes := g.nodes.update core.nodeId (wokenRecord inputs row wake) } :=
  holds.update (rowCore_woken inputs row wake) fun _ same names =>
    wokenRecord_current wake (congrArg RowCore.assignedProgramHash (same.trans is.symm)) names

theorem AlikeWith.woken
    (related : AlikeWith core handlers nonce row.currentProgramHash row'.currentProgramHash g g') (inputs : Inputs)
    (wake : WakeFields) (command : CommandPayload) : AlikeWith core handlers nonce (reconciled inputs row wake.programHash)
      (reconciled inputs row' wake.programHash) (reconciledState inputs row wake command g)
      (reconciledState inputs row' wake command g') := by
  rw [reconciledState_eq, reconciledState_eq, snapshots.nodeId.1, snapshots.nodeId.2]
  refine { related with
    timeout := by simp only [transferred_timeout, related.timeout]
    sessions := ?_
    here := related.here.woken snapshots.here wake
    there := related.there.woken snapshots.there wake }
  unfold transferred
  split
  · simp only [SessionManager.setState, Function.update_self]
    exact related.sessions.setState _
  · exact related.sessions

theorem handleWakeCore_couples :
    Couples (OwnWith core handlers nonce row.currentProgramHash row'.currentProgramHash fun _ => header.nonce ≠ nonce)
      (handleWakeCore lib inputs row header payload) (handleWakeCore lib inputs row' header payload)
      (fun _ => Alike core handlers nonce) (Alike core handlers nonce) := by
  refine ⟨fun g g' ⟨related, own⟩ => ?_⟩
  cases decodes : decodeWake lib payload with
  | none =>
    simp only [handleWakeCore, decodes, orDiscard, bind_run, discard, stop_run]
    exact ⟨trivial, snapshots.alike g g' related⟩
  | some wake =>
    rcases (wakeCommand_couples snapshots snapshots.alike).outcomes ⟨related, own⟩ with
      ⟨⟨seq, command⟩, t, t', choice, choice', alike⟩ | ⟨e, t, t', choice, choice', alike⟩
    · have ready := alike.woken snapshots inputs wake command
      rw [handleWakeCore_eq decodes choice, handleWakeCore_eq decodes choice']
      simp only [snapshots.nodeId, snapshots.keyHint, ready.deferred]
      exact ⟨trivial, _, _, reconciled_routing snapshots wake.programHash, ready.routed _ _ _⟩
    · simp only [handleWakeCore, decodes, orDiscard, bind_run, pure_run, choice, choice']
      exact ⟨trivial, alike⟩

theorem handleWake_couples :
    Couples (OwnWith core handlers nonce row.currentProgramHash row'.currentProgramHash fun _ => header.nonce ≠ nonce)
      (handleWake lib inputs row header payload) (handleWake lib inputs row' header payload)
      (fun _ => Alike core handlers nonce) (Alike core handlers nonce) := by
  refine .bind (handleWakeCore_couples snapshots) ?_
  rintro ⟨responseHeader, responseCbor, deferredDelivered⟩
  rw [snapshots.psk.1, snapshots.psk.2, snapshots.nodeId.1, snapshots.nodeId.2]
  refine .bind (encodeResponse_couples ?_ (fun _ _ related => related) _ _ _ _ _) fun frame => ?_
  · rintro g g' sealed sealed' ⟨current, current', routing, related⟩
    exact ⟨current, current', routing, { related with }⟩
  refine .bind (.ite Iff.rfl (fun _ => .update ?_) fun _ =>
    .pure fun _ _ related => related) fun _ => .pure fun _ _ related => related
  rintro g g' ⟨current, current', routing, related⟩
  exact ⟨current, current', routing, { related with deferred := by rw [related.deferred] }⟩

theorem handleGetChunkCore_couples (chunkIndex : Nat) :
    Parallel (InSession core handlers nonce current current') (handleGetChunkCore inputs row header chunkIndex)
      (handleGetChunkCore inputs row' header chunkIndex) := by
  unfold handleGetChunkCore
  simp only [snapshots.nodeId, snapshots.keyHint, SessionManager.getSession]
  refine .read_bind fun g g' related => ?_
  have same := related.session
  cases found : g.sessionManager.sessions core.nodeId with
  | none =>
    rw [found] at same
    rw [map_eq_none_iff.mp same.symm]
    exact .stop fun _ _ related => related
  | some session =>
    rw [found] at same
    obtain ⟨session', found', equal⟩ := map_eq_some_iff.mp same.symm
    rw [found', numbered_eq equal]
    simp only [orDiscard, Program.pure_bind]
    cases session.state with
    | awaitingPostWake => exact .stop fun _ _ related => related
    | bpfExecuting => exact .stop fun _ _ related => related
    | chunkedTransfer programHash programSize chunkSize chunkCount isEphemeral =>
      refine .bind (.read fun g g' related => ?_) fun program => ?_
      · simp only [visibleProgram, related.programs]
      exact .bind (orDiscard_couples fun _ _ related => related) fun program =>
        .bind (orDiscard_couples fun _ _ related => related) fun chunkData => .pure fun _ _ related => related

def callHandler (inputs : Inputs) (node : RowCore) (header : FrameHeader) (blob programHash : Bytes) (handler : Nat) :
    Processing (FrameHeader × Bytes) := do
  let readings ← Program.read fun g => decoderReadings inputs .appDataProgram programHash blob g
  let message := HandlerMessage.data header.nonce node.nodeId programHash blob (inputs.timestampMs / 1000) readings
  Program.update fun g => (g.emitAppData inputs node.nodeId programHash blob .appData readings).tell [(handler, message)]
  let (data, delivery) ← orDiscard (inputs.sendData handler message)
  if data = [] then discard
  else if delivery = 1 then do
    Program.onlyIf (data.length ≤ maxCommandBlobSize)
      (Program.update fun g => { g with deferredReplies := Function.update g.deferredReplies node.nodeId (some data) })
    discard
  else pure (⟨node.keyHint, msgAppDataReply, header.nonce⟩, (GatewayMessage.appDataReply data).encode)

omit snapshots in
theorem handleAppDataCore_eq (inputs : Inputs) (node : NodeRecord) (header : FrameHeader) (blob : Bytes) (g : Gateway) :
    ∃ outputs, handleAppDataCore inputs node header blob g =
      match routed g.handlers node.currentProgramHash with
      | none => (.error .discarded, { g with outputs })
      | some (programHash, handler) => callHandler inputs (rowCore node) header blob programHash handler g := by
  unfold handleAppDataCore routed
  cases node.currentProgramHash with
  | none => exact ⟨_, rfl⟩
  | some programHash =>
    simp only [bind_run, orDiscard, pure_run, read_run, bind_some]
    cases findHandler g.handlers programHash with
    | none => exact ⟨_, rfl⟩
    | some handler => exact ⟨g.outputs, rfl⟩

omit snapshots in
theorem callHandler_couples (blob programHash : Bytes) (handler : Nat) :
    Parallel (InSession core handlers nonce current current') (callHandler inputs core header blob programHash handler)
      (callHandler inputs core header blob programHash handler) := by
  refine .bind (.read fun g g' related => ?_) fun readings => ?_
  · simp only [decoderReadings, related.programs]
  refine .bind (.update fun g g' related => { related with }) fun _ =>
    .bind (orDiscard_couples fun _ _ related => related) ?_
  rintro ⟨data, delivery⟩
  refine .ite Iff.rfl (fun _ => .stop fun _ _ related => related) fun _ => .ite Iff.rfl (fun _ => ?_)
    fun _ => .pure fun _ _ related => related
  refine .bind (.ite Iff.rfl
    (fun _ => .update fun g g' related => ?_) fun _ => .pure fun _ _ related => related) fun _ =>
    .stop fun _ _ related => related
  exact { related with deferred := by rw [related.deferred] }

theorem handleAppDataCore_couples (blob : Bytes) :
    Parallel (InSession core handlers nonce row.currentProgramHash row'.currentProgramHash)
      (handleAppDataCore inputs row header blob) (handleAppDataCore inputs row' header blob) := by
  refine ⟨fun g g' related => ?_⟩
  obtain ⟨outputs, run⟩ := handleAppDataCore_eq inputs row header blob g
  obtain ⟨outputs', run'⟩ := handleAppDataCore_eq inputs row' header blob g'
  rw [run, run', related.handlers.1, related.handlers.2, snapshots.routing, snapshots.here, snapshots.there]
  cases routed handlers row'.currentProgramHash with
  | none => exact ⟨rfl, { related with handlers := ⟨rfl, rfl⟩ }⟩
  | some route => exact (callHandler_couples blob route.1 route.2).exits g g' related

theorem answerInSession_couples {m m' : Processing (FrameHeader × Bytes)}
    (couples : Parallel (InSession core handlers nonce current current') m m') :
    Parallel (InSession core handlers nonce current current') (answerInSession lib row m) (answerInSession lib row' m') := by
  unfold answerInSession
  simp only [snapshots.nodeId, snapshots.psk]
  refine .bind couples ?_
  rintro ⟨responseHeader, responseCbor⟩
  refine .read_bind fun g g' _ => encodeResponse_couples ?_ (fun _ _ related => related) _ _ _ _ _
  exact fun g g' sealed sealed' related => { related with }

theorem upsertNode_couples : Couples (InSession core handlers nonce row.currentProgramHash row'.currentProgramHash)
      (upsertNode { row with currentProgramHash := current }) (upsertNode { row' with currentProgramHash := current })
      (fun _ => Alike core handlers nonce) left := by
  refine .update fun g g' related => ⟨current, current, rfl, { related with here := ?_, there := ?_ }⟩
  · exact ⟨{ row with currentProgramHash := current }, by rw [← snapshots.nodeId.1]; exact AList.lookup_insert _,
      snapshots.here, rfl⟩
  · exact ⟨{ row' with currentProgramHash := current }, by rw [← snapshots.nodeId.2]; exact AList.lookup_insert _,
      snapshots.there, rfl⟩

theorem handleProgramAck_couples (programHash : Bytes) :
    Couples (InSession core handlers nonce row.currentProgramHash row'.currentProgramHash)
      (handleProgramAck inputs row programHash) (handleProgramAck inputs row' programHash)
      (fun _ => Alike core handlers nonce) left := by
  have anyNumber (s : Option Session) : s.any (acknowledges programHash) = (s.map unnumbered).any (acknowledges programHash) := by
    cases s <;> rfl
  refine .read_bind fun g g' related => .ite ?_ (fun _ => ?_) fun _ => .pure snapshots.inside
  · rw [snapshots.nodeId.1, snapshots.nodeId.2, SessionManager.getSession, SessionManager.getSession, anyNumber,
      related.session, ← anyNumber]
  refine .bind (.ite Iff.rfl (fun _ => upsertNode_couples snapshots) fun _ => .pure snapshots.inside) fun _ => ?_
  refine .bind (Q := fun _ => Alike core handlers nonce) (.update ?_) fun _ => .update ?_
  · rintro g g' ⟨current, current', routing, related⟩
    exact ⟨current, current', routing, { related with }⟩
  · rintro g g' ⟨current, current', routing, related⟩
    refine ⟨current, current', routing, { related with sessions := ?_ }⟩
    simp only [SessionManager.setState, snapshots.nodeId, Function.update_self]
    exact related.sessions.setState _

theorem handlePostWake_couples :
    Couples (OwnWith core handlers nonce row.currentProgramHash row'.currentProgramHash (header.nonce ≠ ·.nextExpectedSeq))
      (handlePostWake lib inputs row header payload) (handlePostWake lib inputs row' header payload)
      (fun _ => Alike core handlers nonce) (Alike core handlers nonce) := by
  refine .bind (orDiscard_couples fun g g' related => snapshots.alike g g' related.1) fun message => ?_
  rw [snapshots.nodeId.1, snapshots.nodeId.2]
  refine .bind (verifyAndAdvanceSeq_couples.conseq (fun _ _ related => related) (fun _ _ _ related => related) snapshots.alike)
    fun _ => ?_
  cases message with
  | getChunk chunkIndex =>
    exact (answerInSession_couples snapshots (handleGetChunkCore_couples snapshots chunkIndex)).conseq
      (fun _ _ related => related) (fun _ => snapshots.inside) snapshots.inside
  | appData blob =>
    exact (answerInSession_couples snapshots (handleAppDataCore_couples snapshots blob)).conseq
      (fun _ _ related => related) (fun _ => snapshots.inside) snapshots.inside
  | programAck programHash =>
    exact .bind (handleProgramAck_couples snapshots programHash) fun _ => .stop fun _ _ related => related
  | wake | diagRequest => exact .stop snapshots.inside

end

include related in
theorem AlikeWith.wakeBlobReply (lib : Libraries) (inputs : Inputs) (index : Nat) :
    AlikeWith core handlers nonce current current' (g.step lib (.wakeBlobReply inputs index))
      (g'.step lib (.wakeBlobReply inputs index)) := by
  simp only [Gateway.step, related.tasks]
  cases g'.wakeBlobTasks[index]? with
  | none => exact related
  | some task =>
    simp only [runWakeBlobTask, Gateway.tell]
    cases inputs.sendData task.handler task.message with
    | none => exact { related with tasks := rfl }
    | some reply =>
      dsimp only
      split
      · exact { related with tasks := rfl, deferred := by rw [related.deferred] }
      · exact { related with tasks := rfl }

theorem Followup.run_alike {event : Followup} (related : Alike core handlers nonce g g')
    (own : event.Own core.nodeId nonce g) : (event.run lib core.nodeId g).1 = (event.run lib core.nodeId g').1 ∧
      Alike core handlers nonce (event.run lib core.nodeId g).2 (event.run lib core.nodeId g').2 := by
  obtain ⟨current, current', routing, related⟩ := related
  cases event with
  | frame inputs header payload =>
    obtain ⟨row, found, here, rfl⟩ := related.here
    obtain ⟨row', found', there, rfl⟩ := related.there
    have snapshots : Snapshots core handlers row row' := ⟨here, there, routing⟩
    simp only [Followup.run, found, found', handleAs]
    by_cases request : header.msgType = msgWake
    · rw [if_pos request, if_pos request]
      have couples : Couples _ (handleWake lib inputs row header payload) (handleWake lib inputs row' header payload)
          (fun _ => Alike core handlers nonce) (Alike core handlers nonce) := handleWake_couples snapshots
      have ends := couples.ends ⟨related, fun session live opened => by simpa [request] using own session live opened⟩
      exact ⟨congrArg Except.toOption ends.1, ends.2⟩
    rw [if_neg request, if_neg request]
    split
    · have couples : Couples _ (handlePostWake lib inputs row header payload) (handlePostWake lib inputs row' header payload)
          (fun _ => Alike core handlers nonce) (Alike core handlers nonce) := handlePostWake_couples snapshots
      have ends := couples.ends ⟨related, fun session live opened => by simpa [request] using own session live opened⟩
      exact ⟨congrArg Except.toOption ends.1, ends.2⟩
    · exact ⟨rfl, _, _, routing, related⟩
  | wakeBlobReply inputs index => exact ⟨rfl, current, current', routing, related.wakeBlobReply lib inputs index⟩

theorem responses_alike {events : List Followup} (related : Alike core handlers nonce g g')
    (own : AllOwn lib core.nodeId nonce g events) :
    responses lib core.nodeId g events = responses lib core.nodeId g' events := by
  induction events generalizing g g' with
  | nil => rfl
  | cons event events ih =>
    obtain ⟨same, later⟩ := Followup.run_alike related own.1
    rw [responses, responses, same, ih later own.2]

end

end Sonde.Engine
