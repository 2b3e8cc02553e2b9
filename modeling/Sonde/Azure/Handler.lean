import Sonde.Azure.Store
import Sonde.Lib.Task

/-!
# The cloud handler

`handle_actual_state` compares what a node reports with what it should be; `handle_gateway_actual_state` answers a
gateway with the keys it misses and the rotation payload that waits for it. Each call of the store and of the queue is one
atomic step.
-/

namespace Sonde.Azure
open Lib Gateway List

inductive Call where
  | appendActualState | loadLatestActualState | loadLatestDesiredState | loadProgramImage
  | loadGatewayActualState | queryNodesByKeyHint (position : Nat) | appendGatewayActualState
  | reloadGatewayActualState | loadGatewayDesiredState | appendGatewayDesiredState | publish

structure Fault where
  error : HandlerError
  applied : Bool

/-- What one invocation meets: the calls that fail, the numbers it draws for its row keys, and the nonce of the process. -/
structure Surroundings where
  faults : Call → Option Fault
  sequence : BitVec 64
  clearSequence : BitVec 64
  processNonce : Except HandlerError (BitVec 64)

open Surroundings

abbrev HandlerTask := Task Tables Call HandlerError

def Surroundings.call {α : Type} (s : Surroundings) (label : Call) (m : Operation α) : HandlerTask α :=
  match s.faults label with
  | none => .atomic label m
  | some fault =>
    if fault.applied then .atomic label (m >>= fun _ => Program.stop fault.error) else .stop fault.error

theorem Surroundings.call_alone {α : Type} {s : Surroundings} {label : Call} (quiet : s.faults label = none)
    (m : Operation α) : (s.call label m).alone = m := by
  unfold call
  rw [quiet]
  rfl

def Surroundings.nextHistoryRowKey (s : Surroundings) (timestampMs sequence : BitVec 64) : Except HandlerError RowKey :=
  s.processNonce.map (historyRowKey timestampMs sequence)

def programDiverged (desired : DesiredStateRow) (actual : ActualStateRow) : Bool :=
  desired.desiredAssignedProgramHash.any fun hash => actual.observedCurrentProgramHash ≠ some hash

def scheduleDiverged (desired : DesiredStateRow) (actual : ActualStateRow) : Bool :=
  desired.desiredScheduleIntervalS.any fun interval => actual.observedScheduleIntervalS ≠ some interval

section
variable (sha256 : Bytes → Bytes) (s : Surroundings)

def loadDesiredProgram (desired : DesiredStateRow) (actual : ActualStateRow) : HandlerTask (Option ProgramImageRow) :=
  if programDiverged desired actual then
    match desired.desiredAssignedProgramHash with
    | some hash => s.call .loadProgramImage (loadProgramImage hash)
    | none => pure none
  else pure none

def evaluateActualState (actual : ActualStateRow) : HandlerTask Unit := do
  let found ← s.call .loadLatestDesiredState (loadLatestDesiredState sha256 actual.nodeId)
  match found with
  | none => pure ()
  | some desired =>
    if desired.nodeId ≠ actual.nodeId then
      let wanted := textString desired.nodeId
      let requested := textString actual.nodeId
      .stop (.store s!"desired-state row node_id `{wanted}` did not match requested node `{requested}`")
    else if programDiverged desired actual || scheduleDiverged desired actual then do
      let program ← loadDesiredProgram s desired actual
      s.call .publish (publish (.node desired program))
    else pure ()

def handleActualState (message : ActualStateMessage) : HandlerTask Unit :=
  if message.entityId = [] then .stop (.decode "node-scoped ACTUAL_STATE requires a non-empty entity_id")
  else do
    let rowKey ← .ofExcept (s.nextHistoryRowKey message.timestampMs s.sequence)
    let appended := ActualStateRow.fromMessage rowKey message
    s.call .appendActualState (appendActualState sha256 appended)
    let latest ← s.call .loadLatestActualState (loadLatestActualState sha256 message.entityId)
    match latest with
    | none =>
      let id := textString message.entityId
      .stop (.store s!"actual-state row `{id}` disappeared after append")
    | some latest =>
      if appended.timestampMs < latest.timestampMs then pure () else evaluateActualState sha256 s appended

end

/-! ## Gateways -/

def isHexDigit (b : BitVec 8) : Bool := Cbor.within 0x30 0x39 b || Cbor.within 0x41 0x46 b || Cbor.within 0x61 0x66 b

def isGatewayId (id : Bytes) : Bool := id.length % 2 = 0 && id.all isHexDigit

def epoch (masterKeyEpoch : Option Nat) : Nat := masterKeyEpoch.getD 0

def epochIncremented (previous : Option GatewayActualStateRow) (message : ActualStateMessage) : Bool :=
  previous.any fun row => epoch row.masterKeyEpoch < epoch message.masterKeyEpoch

def payloadOf (desired : Option GatewayDesiredStateRow) : Option Bytes := desired.bind (·.rotationPayload)

section
variable (s : Surroundings)

def queryHints (masterKeyId : Bytes) : Nat → List Nat → HandlerTask (List NodeEscrowRecord)
  | _, [] => pure []
  | position, hint :: hints => do
    let records ← s.call (.queryNodesByKeyHint position) (queryNodesByKeyHint hint)
    let others ← queryHints masterKeyId (position + 1) hints
    pure (records.filter (·.masterKeyId = masterKeyId) ++ others)

variable (message : ActualStateMessage)

def recoverPsks : HandlerTask (List NodeEscrowRecord) :=
  match message.missingKeyHints, message.gatewayMasterKeyId with
  | some hints, some masterKeyId => queryHints s masterKeyId 0 hints
  | _, _ => pure []

-- The original row stays; a newer one without payload hides it.
def clearRotationPayload (desired : Option GatewayDesiredStateRow) : HandlerTask Unit :=
  Task.onlyIf ((payloadOf desired).isSome = true) do
    let rowKey ← .ofExcept (s.nextHistoryRowKey message.timestampMs s.clearSequence)
    s.call .appendGatewayDesiredState (appendGatewayDesiredState message.entityId ⟨rowKey, none, message.timestampMs⟩)

def relayRotationPayload (incremented : Bool) (desired : Option GatewayDesiredStateRow) : HandlerTask (Option Bytes) :=
  if incremented then do
    clearRotationPayload s message desired
    pure none
  else pure (payloadOf desired)

def answerGateway (incremented : Bool) (recoveredPsks : List NodeEscrowRecord) : HandlerTask Unit := do
  let desired ← s.call .loadGatewayDesiredState (loadGatewayDesiredState message.entityId)
  let rotationPayload ← relayRotationPayload s message incremented desired
  Task.onlyIf (recoveredPsks ≠ [] ∨ rotationPayload.isSome = true)
    (s.call .publish (publish (.gateway message.entityId rotationPayload recoveredPsks)))

def recordGatewayState (incremented : Bool) (recoveredPsks : List NodeEscrowRecord)
    (row : GatewayActualStateRow) : HandlerTask Unit := do
  s.call .appendGatewayActualState (appendGatewayActualState message.entityId row)
  let latest ← s.call .reloadGatewayActualState (loadGatewayActualState message.entityId)
  match latest with
  | none =>
    let id := textString message.entityId
    .stop (.store s!"gateway actual-state row `{id}` disappeared after append")
  | some latest =>
    if row.timestampMs < latest.timestampMs then pure () else answerGateway s message incremented recoveredPsks

def superseded (previous : Option GatewayActualStateRow) (row : GatewayActualStateRow) : Bool :=
  previous.any (row.timestampMs < ·.timestampMs)

def handleGatewayActualState : HandlerTask Unit :=
  if message.entityId = [] then .stop (.decode "gateway-scoped ACTUAL_STATE requires a non-empty entity_id")
  else if isGatewayId message.entityId = false then
    let id := textString message.entityId
    .stop (.decode s!"gateway entity_id must be even-length hex, got `{id}`")
  else do
    let previous ← s.call .loadGatewayActualState (loadGatewayActualState message.entityId)
    let recoveredPsks ← recoverPsks s message
    let rowKey ← .ofExcept (s.nextHistoryRowKey message.timestampMs s.sequence)
    let row := GatewayActualStateRow.ofMessage rowKey message
    if superseded previous row then pure ()
    else recordGatewayState s message (epochIncremented previous message) recoveredPsks row

end

/-! ## What gateways are sent -/

theorem latest_mem (records : List (RowKey × NodeEscrowRecord)) :
    ∀ record ∈ records.foldl keepLatest [], record ∈ records := by
  refine foldlRecOn (motive := fun seen => ∀ record ∈ seen, record ∈ records) records keepLatest (by simp) ?_
  intro seen old record member found kept
  unfold keepLatest at kept
  grind

def Escrowed (rows : List ActualStateRow) (hints : List Nat) (masterKeyId : Bytes) (record : NodeEscrowRecord) : Prop :=
  record.masterKeyId = masterKeyId ∧ ∃ hint ∈ hints, ∃ row ∈ rows, ∃ rowKey, escrowRecord hint row = some (rowKey, record)

/-- Nodes have reported the records, under the gateway's master key and with hints that it misses. -/
def Solicited (rows : List ActualStateRow) (message : ActualStateMessage) (psks : List NodeEscrowRecord) : Prop :=
  ∀ record ∈ psks, ∃ hints masterKeyId, message.missingKeyHints = some hints ∧
    message.gatewayMasterKeyId = some masterKeyId ∧ Escrowed rows hints masterKeyId record

def OnlyAnswers (reports : List (Surroundings × ActualStateMessage)) (t t' : Tables) : Prop :=
  t'.actualState = t.actualState ∧ ∀ answer ∈ t'.published, answer ∈ t.published ∨ ∃ report ∈ reports,
    ∃ payload psks, answer = .gateway report.2.entityId payload psks ∧ Solicited t.actualState report.2 psks

theorem Surroundings.call_keeps {s : Surroundings} {α : Type} {label : Call} {m : Operation α} {I : Tables → Prop}
    {Q : α → Prop} (keeps : m.Keeps I Q) : (s.call label m).Keeps I Q := by
  unfold call
  split
  · exact .atomic keeps
  · exact .ite (fun _ => Task.Keeps.atomic (.bind keeps fun _ _ => .stop)) fun _ => .stop

section
variable {reports : List (Surroundings × ActualStateMessage)} {t : Tables}

theorem queryHints_keeps (s : Surroundings) (masterKeyId : Bytes) (position : Nat) (hints : List Nat) :
    (queryHints s masterKeyId position hints).Keeps (OnlyAnswers reports t)
      fun records => ∀ record ∈ records, Escrowed t.actualState hints masterKeyId record := by
  induction hints generalizing position with
  | nil => exact .pure (by simp)
  | cons hint hints ih =>
    have query : (queryNodesByKeyHint hint).Keeps (OnlyAnswers reports t) fun records =>
        ∀ record ∈ records, ∃ row ∈ t.actualState, ∃ rowKey, escrowRecord hint row = some (rowKey, record) := by
      refine .read fun t' kept record member => ?_
      obtain ⟨⟨rowKey, _⟩, latest, rfl⟩ := mem_map.mp member
      obtain ⟨row, isRow, escrow⟩ := mem_filterMap.mp (latest_mem _ _ latest)
      exact ⟨row, kept.1 ▸ isRow, rowKey, escrow⟩
    refine .bind (call_keeps query) fun records found => .bind (ih (position + 1)) fun others rest => .pure ?_
    intro record member
    rcases mem_append.mp member with own | other
    · obtain ⟨own, isKey⟩ := mem_filter.mp own
      exact ⟨of_decide_eq_true isKey, hint, mem_cons_self, found record own⟩
    · obtain ⟨isKey, asked, member, escrowed⟩ := rest record other
      exact ⟨isKey, asked, mem_cons_of_mem _ member, escrowed⟩

variable {report : Surroundings × ActualStateMessage} (asked : report ∈ reports)
include asked

theorem answerGateway_keeps {psks : List NodeEscrowRecord} (solicited : Solicited t.actualState report.2 psks)
    (incremented : Bool) :
    (answerGateway report.1 report.2 incremented psks).Keeps (OnlyAnswers reports t) fun _ => True := by
  refine .bind (call_keeps .observe) fun desired _ => .bind (Q := fun _ => True) ?_ fun payload _ => ?_
  · refine .ite (fun _ => .bind (Q := fun _ => True) ?_ fun _ _ => .pure trivial) fun _ => .pure trivial
    refine .ite (fun _ => .bind (Q := fun _ => True) (fun _ _ => trivial) fun rowKey _ => ?_) fun _ => .pure trivial
    refine call_keeps fun t' kept => ?_
    unfold appendGatewayDesiredState
    dsimp only
    split <;> exact ⟨kept, fun _ _ => trivial⟩
  · refine .ite (fun _ => call_keeps (.change fun t' kept => ⟨kept.1, ?_⟩)) fun _ => .pure trivial
    intro answer member
    rcases mem_append.mp member with old | new
    · exact kept.2 answer old
    · exact .inr ⟨report, asked, payload, psks, mem_singleton.mp new, solicited⟩

theorem handleGatewayActualState_keeps :
    (handleGatewayActualState report.1 report.2).Keeps (OnlyAnswers reports t) fun _ => True := by
  have recovers : (recoverPsks report.1 report.2).Keeps (OnlyAnswers reports t) (Solicited t.actualState report.2) := by
    unfold recoverPsks
    split
    · rename_i hints masterKeyId missing key
      refine (queryHints_keeps report.1 masterKeyId 0 hints).mono (fun _ kept => kept) (fun _ _ _ _ kept => kept) ?_
      exact fun psks found record member => ⟨hints, masterKeyId, missing, key, found record member⟩
    · exact .pure (by simp [Solicited])
  refine .ite (fun _ => .stop) fun _ => .ite (fun _ => .stop) fun _ => ?_
  refine .bind (call_keeps .observe) fun previous _ => .bind recovers fun psks solicited => ?_
  refine .bind (Q := fun _ => True) (fun _ _ => trivial) fun rowKey _ => .ite (fun _ => .pure trivial) fun _ => ?_
  refine .bind (Q := fun _ => True) (call_keeps fun t' kept => ?_) fun _ _ => ?_
  · unfold appendGatewayActualState
    dsimp only
    split <;> exact ⟨kept, fun _ _ => trivial⟩
  · refine .bind (call_keeps .observe) fun latest _ => ?_
    cases latest with
    | none => exact .stop
    | some latest => exact .ite (fun _ => .pure trivial) fun _ => answerGateway_keeps asked solicited _

end

/-- Whatever runs beside it or fails, a gateway gets only keys that it asked for. -/
theorem gateways_get_solicited_psks (reports : List (Surroundings × ActualStateMessage)) (t : Tables)
    (schedule : List Nat) : OnlyAnswers reports t
      (Task.Pool.run ⟨t, reports.map fun report => handleGatewayActualState report.1 report.2⟩ schedule).state := by
  refine Task.Pool.run_keeps (fun task member => ?_) ⟨rfl, fun answer member => .inl member⟩ schedule
  obtain ⟨report, asked, rfl⟩ := mem_map.mp member
  exact handleGatewayActualState_keeps asked

/-! ## The row keys of one process -/

/-- A call of `next_history_row_key`: what the random source gives if the nonce is not set yet, and the nonce that another
thread sets between the look at it and the draw. -/
structure KeyCall where
  timestampMs : BitVec 64
  drawn : Except HandlerError (BitVec 64)
  raced : Option (BitVec 64)

/-- `HISTORY_ROW_SEQUENCE` and `HISTORY_ROW_PROCESS_NONCE`. -/
structure RowKeyState where
  sequence : BitVec 64 := 0
  processNonce : Option (BitVec 64) := none

def historyRowProcessNonce (state : RowKeyState) (call : KeyCall) : Except HandlerError (BitVec 64) × RowKeyState :=
  match state.processNonce with
  | some nonce => (.ok nonce, state)
  | none =>
    match call.drawn with
    | .error e => (.error e, { state with processNonce := call.raced })
    | .ok nonce => (.ok (call.raced.getD nonce), { state with processNonce := some (call.raced.getD nonce) })

def nextHistoryRowKey (state : RowKeyState) (call : KeyCall) : Except HandlerError RowKey × RowKeyState :=
  let sequence := state.sequence
  let (processNonce, state) := historyRowProcessNonce { state with sequence := sequence + 1 } call
  (processNonce.map (historyRowKey call.timestampMs sequence), state)

def rowKeys : RowKeyState → List KeyCall → List (Except HandlerError RowKey)
  | _, [] => []
  | state, call :: calls => (nextHistoryRowKey state call).1 :: rowKeys (nextHistoryRowKey state call).2 calls

theorem nextHistoryRowKey_sequence (state : RowKeyState) (call : KeyCall) :
    (nextHistoryRowKey state call).2.sequence = state.sequence + 1 := by
  unfold nextHistoryRowKey historyRowProcessNonce
  dsimp only
  split
  · rfl
  · split <;> rfl

theorem rowKeys_get {state : RowKeyState} {calls : List KeyCall} {n i : Nat} {key : RowKey}
    (counted : state.sequence = BitVec.ofNat 64 n) (issued : (rowKeys state calls)[i]? = some (.ok key)) :
    ∃ call nonce, calls[i]? = some call ∧ key = historyRowKey call.timestampMs (BitVec.ofNat 64 (n + i)) nonce := by
  induction calls generalizing state n i with
  | nil => cases issued
  | cons call calls ih =>
    cases i with
    | zero =>
      have first : (historyRowProcessNonce { state with sequence := state.sequence + 1 } call).1.map
          (historyRowKey call.timestampMs state.sequence) = .ok key := Option.some.inj issued
      cases drawn : (historyRowProcessNonce { state with sequence := state.sequence + 1 } call).1 with
      | error e =>
        rw [drawn] at first
        cases first
      | ok nonce =>
        rw [drawn, counted] at first
        exact ⟨call, nonce, rfl, (Except.ok.inj first).symm⟩
    | succ i =>
      have next : (nextHistoryRowKey state call).2.sequence = BitVec.ofNat 64 (n + 1) := by
        rw [nextHistoryRowKey_sequence, counted, BitVec.ofNat_add]
        rfl
      obtain ⟨later, nonce, found, rfl⟩ := ih next issued
      exact ⟨later, nonce, found, by rw [Nat.add_assoc, Nat.add_comm 1 i]⟩

theorem historyRowKey_later {sequence sequence' : BitVec 64} (later : sequence < sequence') (t nonce nonce' : BitVec 64) :
    historyRowKey t sequence' nonce' < historyRowKey t sequence nonce := by
  have less : sequence.toNat < sequence'.toNat := later
  refine append_left_lt (cons_lt_cons_iff.mpr (.inr ⟨rfl, ?_⟩))
  refine append_lt_append_of_lt (by rw [fixedHex_length, fixedHex_length]) ?_ _ _
  rw [fixedHex_lt_iff (by omega) (by omega)]
  omega

/-- Larger timestamps come first, and later calls come first among equal timestamps. -/
theorem row_keys_ordered {calls : List KeyCall} (few : calls.length < 2 ^ 64) {i j : Nat} (before : i < j)
    {first second : RowKey} (issued : (rowKeys {} calls)[i]? = some (.ok first))
    (reissued : (rowKeys {} calls)[j]? = some (.ok second)) :
    ∃ earlier later, calls[i]? = some earlier ∧ calls[j]? = some later ∧ first ≠ second ∧
      (later.timestampMs < earlier.timestampMs → first < second) ∧
      (earlier.timestampMs ≤ later.timestampMs → second < first) := by
  obtain ⟨earlier, nonce, found, rfl⟩ := rowKeys_get rfl issued
  obtain ⟨later, nonce', found', rfl⟩ := rowKeys_get rfl reissued
  have inside := (List.getElem?_eq_some_iff.mp found').1
  have advanced : BitVec.ofNat 64 (0 + i) < BitVec.ofNat 64 (0 + j) := by
    simp only [BitVec.lt_def, BitVec.toNat_ofNat]
    omega
  refine ⟨earlier, later, found, found', ?_⟩
  rcases Nat.lt_trichotomy later.timestampMs.toNat earlier.timestampMs.toNat with less | same | more
  · have sorted := historyRowKey_lt (BitVec.lt_def.mpr less) (BitVec.ofNat 64 (0 + j)) (BitVec.ofNat 64 (0 + i)) nonce' nonce
    exact ⟨sorted.ne, fun _ => sorted, fun le => absurd less (Nat.not_lt.mpr le)⟩
  · have sorted := historyRowKey_later advanced earlier.timestampMs nonce nonce'
    rw [BitVec.eq_of_toNat_eq same]
    exact ⟨sorted.ne', fun less => absurd less (Nat.lt_irrefl _), fun _ => sorted⟩
  · have sorted := historyRowKey_lt (BitVec.lt_def.mpr more) (BitVec.ofNat 64 (0 + i)) (BitVec.ofNat 64 (0 + j)) nonce nonce'
    exact ⟨sorted.ne', fun less => absurd more (Nat.lt_asymm less), fun _ => sorted⟩

theorem row_keys_ordered_twice : historyRowKey 5 0 7 ≠ historyRowKey 5 1 7 := by
  have issued : (rowKeys {} [⟨5, .ok 7, none⟩, ⟨5, .ok 8, none⟩])[0]? = some (.ok (historyRowKey 5 0 7)) := rfl
  obtain ⟨_, _, -, -, distinct, -⟩ := row_keys_ordered (by decide) Nat.zero_lt_one issued rfl
  exact distinct

end Sonde.Azure
