import Sonde.Lib.Bytes
import Sonde.Lib.Program
import Sonde.Lib.Run

/-!
# The display transfer

The gateway sends a framebuffer to the modem in nine steps, a begin and eight chunks, and waits for the acknowledgement of
each. The serial link keeps the order of what it carries, in both directions, and loses or delays any of it.
-/

namespace Sonde.System
open Lib Lib.Program List

def displayFrameBodySize : Nat := 1024
def displayFrameChunkSize : Nat := 128
def displayFrameChunkCount : Nat := 8
def displayAckMaxRetries : Nat := 3
def eventErrorInvalidFrame : BitVec 8 := 1

abbrev Framebuffer := { bytes : Bytes // bytes.length = displayFrameBodySize }

inductive DisplayRequest where
  | frameBegin (transferId : BitVec 8)
  | frameChunk (transferId : BitVec 8) (chunkIndex : Nat) (chunkData : Bytes)

structure DisplayFrameAck where
  transferId : BitVec 8
  nextChunkIndex : Nat

inductive DisplayReply where
  | displayFrameAck (ack : DisplayFrameAck)
  | eventError (errorCode : BitVec 8)

structure DisplayTransferState where
  transferId : BitVec 8
  nextChunkIndex : Nat
  framebuffer : Bytes

/-- What the bridge keeps for the display. `queuedFrames` has what it gave to `queue_frame`, the last one last. -/
structure Bridge where
  displayTransfer : Option DisplayTransferState
  queuedFrames : List Bytes

namespace Bridge

def abortDisplayTransferInvalidFrame (bridge : Bridge) : DisplayReply × Bridge :=
  (.eventError eventErrorInvalidFrame, { bridge with displayTransfer := none })

def handleDisplayFrameBegin (transferId : BitVec 8) (bridge : Bridge) : DisplayReply × Bridge :=
  (.displayFrameAck ⟨transferId, 0⟩,
    { bridge with displayTransfer := some ⟨transferId, 0, replicate displayFrameBodySize 0⟩ })

def handleDisplayFrameChunk (transferId : BitVec 8) (chunkIndex : Nat) (chunkData : Bytes) (bridge : Bridge) :
    DisplayReply × Bridge :=
  match bridge.displayTransfer with
  | none => bridge.abortDisplayTransferInvalidFrame
  | some current =>
    if transferId ≠ current.transferId then bridge.abortDisplayTransferInvalidFrame
    else if chunkIndex ≠ current.nextChunkIndex then
      (.displayFrameAck ⟨current.transferId, current.nextChunkIndex⟩, bridge)
    else
      let start := chunkIndex * displayFrameChunkSize
      let framebuffer := current.framebuffer.take start ++ chunkData ++
        current.framebuffer.drop (start + displayFrameChunkSize)
      let nextChunkIndex := current.nextChunkIndex + 1
      (.displayFrameAck ⟨current.transferId, nextChunkIndex⟩,
        if nextChunkIndex = displayFrameChunkCount then ⟨none, bridge.queuedFrames ++ [framebuffer]⟩
        else { bridge with displayTransfer := some ⟨current.transferId, nextChunkIndex, framebuffer⟩ })

def dispatch (bridge : Bridge) : DisplayRequest → DisplayReply × Bridge
  | .frameBegin transferId => bridge.handleDisplayFrameBegin transferId
  | .frameChunk transferId chunkIndex chunkData => bridge.handleDisplayFrameChunk transferId chunkIndex chunkData

end Bridge

inductive LinkEvent where
  | requestArrives
  | requestLost
  | replyArrives
  | replyLost

structure Serial where
  toModem : List DisplayRequest
  toGateway : List DisplayReply
  bridge : Bridge
  nextDisplayTransferId : BitVec 8

def Serial.new : Serial := ⟨[], [], ⟨none, []⟩, 0⟩

namespace Serial

/-- What happens to the first message under way, and the acknowledgement that the gateway's reader gets by it. -/
def event (s : Serial) : LinkEvent → Option DisplayFrameAck × Serial
  | .requestArrives =>
    match s.toModem with
    | [] => (none, s)
    | request :: rest =>
      let (reply, bridge) := s.bridge.dispatch request
      (none, { s with toModem := rest, toGateway := s.toGateway ++ [reply], bridge })
  | .requestLost => (none, { s with toModem := s.toModem.tail })
  | .replyArrives =>
    match s.toGateway with
    | [] => (none, s)
    | .displayFrameAck ack :: rest => (some ack, { s with toGateway := rest })
    | .eventError _ :: rest => (none, { s with toGateway := rest })
  | .replyLost => (none, { s with toGateway := s.toGateway.tail })

-- Without a waiter in the slot the reader drops an acknowledgement.
def idle (s : Serial) (events : List LinkEvent) : Serial := events.foldl (fun s event => (s.event event).2) s

def await (s : Serial) : List LinkEvent → Option DisplayFrameAck × Serial
  | [] => (none, s)
  | event :: events =>
    match s.event event with
    | (some ack, s) => (some ack, s)
    | (none, s) => s.await events

end Serial

structure Window where
  before : List LinkEvent
  during : List LinkEvent

def attempt (window : Window) (request : DisplayRequest) : Program Serial String (Option DisplayFrameAck) := fun s =>
  let s := s.idle window.before
  let (ack, s) := { s with toModem := s.toModem ++ [request] }.await window.during
  (.ok ack, s)

def checkAck (stepLabel : String) (transferId : BitVec 8) (expected : Nat) (ack : DisplayFrameAck) : Except String Unit :=
  let expectedId := transferId.toNat
  let transfer := ack.transferId.toNat
  let next := ack.nextChunkIndex
  if ack.transferId ≠ transferId then
    .error s!"{stepLabel}: DISPLAY_FRAME_ACK transfer mismatch: expected {expectedId}, got {transfer}; modem transport is desynchronized"
  else if ack.nextChunkIndex ≠ expected then
    .error s!"{stepLabel}: DISPLAY_FRAME_ACK next_chunk_index mismatch: expected {expected}, got {next}; modem transport is desynchronized"
  else .ok ()

def sendDisplayMessageWaitForAck (windows : Nat → Window) (request : DisplayRequest) (transferId : BitVec 8) (expected : Nat)
    (stepLabel : String) : List Nat → Program Serial String Unit
  | [] =>
    let id := transferId.toNat
    let attempts := displayAckMaxRetries + 1
    Program.stop s!"{stepLabel}: DISPLAY_FRAME_ACK timeout waiting for transfer {id} chunk progress {expected} after {attempts} attempts"
  | n :: later => do
    let ack ← attempt (windows n) request
    match ack with
    | some ack => Program.ofExcept (checkAck stepLabel transferId expected ack)
    | none => sendDisplayMessageWaitForAck windows request transferId expected stepLabel later

def sendChunks (link : Nat → Nat → Window) (transferId : BitVec 8) (framebuffer : Bytes) :
    List Nat → Program Serial String Unit
  | [] => pure ()
  | chunkIndex :: later => do
    let chunkData := (framebuffer.drop (chunkIndex * displayFrameChunkSize)).take displayFrameChunkSize
    sendDisplayMessageWaitForAck (link (chunkIndex + 1)) (.frameChunk transferId chunkIndex chunkData) transferId
      (chunkIndex + 1) "DISPLAY_FRAME_CHUNK" (range (displayAckMaxRetries + 1))
    sendChunks link transferId framebuffer later

def sendDisplayFrame (link : Nat → Nat → Window) (framebuffer : Framebuffer) : Program Serial String Unit := do
  let transferId ← Program.read Serial.nextDisplayTransferId
  Program.update fun s => { s with nextDisplayTransferId := s.nextDisplayTransferId + 1 }
  sendDisplayMessageWaitForAck (link 0) (.frameBegin transferId) transferId 0 "DISPLAY_FRAME_BEGIN"
    (range (displayAckMaxRetries + 1))
  sendChunks link transferId framebuffer.val (range displayFrameChunkCount)

inductive Fate where
  | requestLost
  | answerLost
  | answered
  | late
  deriving DecidableEq

def answerFate : List LinkEvent → Fate
  | [] => .late
  | .replyArrives :: _ => .answered
  | .replyLost :: _ => .answerLost
  | _ :: events => answerFate events

def fate : List LinkEvent → Fate
  | [] => .late
  | .requestArrives :: events => answerFate events
  | .requestLost :: _ => .requestLost
  | _ :: events => fate events

structure DisplayCall where
  framebuffer : Framebuffer
  link : Nat → Nat → Window

namespace DisplayCall

def fateOf (call : DisplayCall) (step attempt : Nat) : Fate := fate (call.link step attempt).during

def Served (call : DisplayCall) : Prop :=
  ∀ step < displayFrameChunkCount + 1, ∃ attempt < displayAckMaxRetries + 1, call.fateOf step attempt = .answered

/-- Whatever arrives does so before its attempt's timeout, and the first request with the last chunk that arrives is
answered. -/
def Prompt (call : DisplayCall) : Prop :=
  (∀ step < displayFrameChunkCount + 1, ∀ attempt < displayAckMaxRetries + 1, call.fateOf step attempt ≠ .late) ∧
  ∀ attempt < displayAckMaxRetries + 1, call.fateOf displayFrameChunkCount attempt = .answerLost →
    ∃ earlier < attempt, call.fateOf displayFrameChunkCount earlier = .answered

def run (s : Serial) (call : DisplayCall) : Serial := (sendDisplayFrame call.link call.framebuffer s).2

def Reliable (s : Serial) (call : DisplayCall) : Prop :=
  let result := sendDisplayFrame call.link call.framebuffer s
  (call.Served → result.1 = .ok () ∧ result.2.bridge.queuedFrames = s.bridge.queuedFrames ++ [call.framebuffer.val]) ∧
  (result.1 = .ok () → result.2.bridge.queuedFrames.getLast? = some call.framebuffer.val)

instance (call : DisplayCall) : Decidable call.Served := by unfold Served; infer_instance

instance (call : DisplayCall) : Decidable call.Prompt := by unfold Prompt; infer_instance

end DisplayCall

structure Quiet (bridge : Bridge) (s : Serial) : Prop where
  toModem : s.toModem = []
  toGateway : s.toGateway = []
  bridge : s.bridge = bridge

section
variable {bridge : Bridge} {s : Serial} {events : List LinkEvent} {request : DisplayRequest} {reply : DisplayReply}

def DisplayReply.ack? : DisplayReply → Option DisplayFrameAck
  | .displayFrameAck ack => some ack
  | .eventError _ => none

theorem event_quiet (quiet : Quiet bridge s) (event : LinkEvent) : s.event event = (none, s) := by
  obtain ⟨toModem, toGateway, modem, nextId⟩ := s
  obtain ⟨rfl, rfl, -⟩ := quiet
  cases event <;> rfl

theorem idle_quiet (quiet : Quiet bridge s) : s.idle events = s := by
  induction events with
  | nil => rfl
  | cons event events ih =>
    unfold Serial.idle at ih ⊢
    rwa [foldl_cons, event_quiet quiet]

theorem await_quiet (quiet : Quiet bridge s) : s.await events = (none, s) := by
  induction events with
  | nil => rfl
  | cons event events ih =>
    unfold Serial.await
    rw [event_quiet quiet]
    exact ih

theorem await_answering (quiet : Quiet bridge s) (prompt : answerFate events ≠ .late) :
    { s with toGateway := [reply] }.await events = (if answerFate events = .answered then reply.ack? else none, s) := by
  induction events with
  | nil => exact absurd rfl prompt
  | cons event events ih =>
    obtain ⟨toModem, toGateway, modem, nextId⟩ := s
    obtain ⟨rfl, rfl, -⟩ := id quiet
    cases event with
    | requestArrives => exact ih prompt
    | requestLost => exact ih prompt
    | replyLost => exact await_quiet quiet
    | replyArrives =>
      cases reply with
      | displayFrameAck ack => rfl
      | eventError code => exact await_quiet quiet

theorem answerFate_asked (events : List LinkEvent) : answerFate events ≠ .requestLost := by
  induction events with
  | nil => nofun
  | cons event events ih =>
    cases event with
    | requestArrives => exact ih
    | requestLost => exact ih
    | replyArrives => nofun
    | replyLost => nofun

theorem await_asking (quiet : Quiet bridge s) (prompt : fate events ≠ .late) :
    { s with toModem := [request] }.await events =
      if fate events = .requestLost then (none, s)
      else (if fate events = .answered then (bridge.dispatch request).1.ack? else none,
        { s with bridge := (bridge.dispatch request).2 }) := by
  induction events with
  | nil => exact absurd rfl prompt
  | cons event events ih =>
    obtain ⟨toModem, toGateway, modem, nextId⟩ := s
    obtain ⟨rfl, rfl, rfl⟩ := id quiet
    cases event with
    | requestArrives =>
      let answer := modem.dispatch request
      have quiet : Quiet answer.2 ⟨[], [], answer.2, nextId⟩ := ⟨rfl, rfl, rfl⟩
      exact (await_answering quiet prompt).trans (if_neg (answerFate_asked events)).symm
    | requestLost => exact await_quiet quiet
    | replyArrives => exact ih prompt
    | replyLost => exact ih prompt

theorem attempt_run (quiet : Quiet bridge s) {window : Window} (prompt : fate window.during ≠ .late) :
    attempt window request s =
      if fate window.during = .requestLost then (.ok none, s)
      else (.ok (if fate window.during = .answered then (bridge.dispatch request).1.ack? else none),
        { s with bridge := (bridge.dispatch request).2 }) := by
  have sent : { s with toModem := s.toModem ++ [request] } = { s with toModem := [request] } := by
    rw [quiet.toModem]
    rfl
  unfold attempt
  rw [idle_quiet quiet]
  dsimp only
  rw [sent, await_asking quiet prompt]
  split <;> rfl

end

/-! ## One step -/

section
variable {before after : Bridge} {request : DisplayRequest} {transferId : BitVec 8} {expected : Nat} {windows : Nat → Window}

variable (after request transferId expected windows) in
/-- The bridge acknowledges the step when it has made it, too, or the first request that arrives is answered. -/
def Recovers : Prop :=
  after.dispatch request = (.displayFrameAck ⟨transferId, expected⟩, after) ∨
    ∀ attempt < displayAckMaxRetries + 1, fate (windows attempt).during = .answerLost →
      ∃ earlier < attempt, fate (windows earlier).during = .answered

variable (before after request transferId expected) in
def Asking (s : Serial) : Prop :=
  Quiet before s ∨ Quiet after s ∧ after.dispatch request = (.displayFrameAck ⟨transferId, expected⟩, after)

def Unserved (call : DisplayCall) (s : Serial) : Prop := (∃ bridge, Quiet bridge s) ∧ ¬call.Served

variable (makes : before.dispatch request = (.displayFrameAck ⟨transferId, expected⟩, after))

include makes in
theorem attempt_meets
    (recovers : Recovers after request transferId expected windows) {n : Nat} (bound : n < displayAckMaxRetries + 1)
    (prompt : fate (windows n).during ≠ .late) (unanswered : ∀ earlier < n, fate (windows earlier).during ≠ .answered)
    (left : Serial → Prop) :
    Meets (Asking before after request transferId expected) (attempt (windows n) request)
      (fun heard s => (heard = some ⟨transferId, expected⟩ ∧ Quiet after s) ∨
        (heard = none ∧ fate (windows n).during ≠ .answered) ∧ Asking before after request transferId expected s) left := by
  refine ⟨fun s asking => ?_⟩
  obtain ⟨bridge, quiet, answers⟩ : ∃ bridge, Quiet bridge s ∧
      bridge.dispatch request = (.displayFrameAck ⟨transferId, expected⟩, after) := by
    rcases asking with quiet | ⟨quiet, again⟩
    · exact ⟨before, quiet, makes⟩
    · exact ⟨after, quiet, again⟩
  have made : Quiet after { s with bridge := after } := ⟨quiet.toModem, quiet.toGateway, rfl⟩
  rw [attempt_run quiet prompt, answers]
  cases ends : fate (windows n).during with
  | requestLost => exact .inr ⟨⟨rfl, nofun⟩, asking⟩
  | late => exact absurd ends prompt
  | answered => exact .inl ⟨rfl, made⟩
  | answerLost =>
    refine .inr ⟨⟨rfl, nofun⟩, .inr ⟨made, ?_⟩⟩
    rcases recovers with again | answered
    · exact again
    · obtain ⟨earlier, before, answered⟩ := answered n bound ends
      exact absurd answered (unanswered earlier before)

include makes in
theorem attempts_meet (recovers : Recovers after request transferId expected windows)
    (prompt : ∀ attempt < displayAckMaxRetries + 1, fate (windows attempt).during ≠ .late) (stepLabel : String)
    {n left : Nat} (all : n + left = displayAckMaxRetries + 1)
    (unanswered : ∀ earlier < n, fate (windows earlier).during ≠ .answered) :
    Meets (Asking before after request transferId expected)
      (sendDisplayMessageWaitForAck windows request transferId expected stepLabel (range' n left))
      (fun _ => Quiet after) fun s => (∃ bridge, Quiet bridge s) ∧
        ∀ attempt < displayAckMaxRetries + 1, fate (windows attempt).during ≠ .answered := by
  induction left generalizing n with
  | zero =>
    refine .stop fun s asking => ⟨?_, all ▸ unanswered⟩
    rcases asking with quiet | ⟨quiet, -⟩
    · exact ⟨before, quiet⟩
    · exact ⟨after, quiet⟩
  | succ left ih =>
    refine .bind (attempt_meets makes recovers (by omega) (prompt n (by omega)) unanswered _) fun heard => ⟨?_⟩
    rintro s (⟨rfl, quiet⟩ | ⟨⟨rfl, last⟩, asking⟩)
    · have passes : checkAck stepLabel transferId expected ⟨transferId, expected⟩ = .ok () := by simp [checkAck]
      dsimp only
      rw [passes]
      exact quiet
    · refine (ih (by omega) fun earlier before => ?_).exits s asking
      rcases Nat.lt_succ_iff_lt_or_eq.mp before with before | rfl
      · exact unanswered earlier before
      · exact last

theorem step_meets {call : DisplayCall} {step : Nat} (bound : step < displayFrameChunkCount + 1)
    (makes : before.dispatch request = (.displayFrameAck ⟨transferId, expected⟩, after))
    (recovers : Recovers after request transferId expected (call.link step)) (prompt : call.Prompt) (stepLabel : String) :
    Meets (Quiet before) (sendDisplayMessageWaitForAck (call.link step) request transferId expected stepLabel
      (range (displayAckMaxRetries + 1))) (fun _ => Quiet after) (Unserved call) := by
  refine .conseq (attempts_meet makes recovers (prompt.1 step bound) stepLabel (Nat.zero_add _) (by omega))
    (fun _ quiet => .inl quiet) (fun _ _ quiet => quiet) fun s unserved => ⟨unserved.1, fun served => ?_⟩
  obtain ⟨attempt, bound, answered⟩ := served step bound
  exact unserved.2 attempt bound answered

end

/-! ## The whole transfer -/

section
variable {call : DisplayCall} {transferId : BitVec 8} {transfer : Option DisplayTransferState} {queued : List Bytes}

variable (call transferId queued) in
def expecting (index : Nat) : Bridge :=
  if index = displayFrameChunkCount then ⟨none, queued ++ [call.framebuffer.val]⟩
  else
    ⟨some ⟨transferId, index, call.framebuffer.val.take (index * displayFrameChunkSize) ++
      replicate (displayFrameBodySize - index * displayFrameChunkSize) 0⟩, queued⟩

def chunkOf (call : DisplayCall) (transferId : BitVec 8) (index : Nat) : DisplayRequest :=
  .frameChunk transferId index ((call.framebuffer.val.drop (index * displayFrameChunkSize)).take displayFrameChunkSize)

theorem expecting_chunk {index : Nat} (bound : index < displayFrameChunkCount) :
    (expecting call transferId queued index).dispatch (chunkOf call transferId index) =
      (.displayFrameAck ⟨transferId, index + 1⟩, expecting call transferId queued (index + 1)) := by
  obtain ⟨⟨frame, length⟩, link⟩ := call
  have short : index * displayFrameChunkSize + displayFrameChunkSize ≤ frame.length := by
    rw [length]
    simp only [displayFrameBodySize, displayFrameChunkSize, displayFrameChunkCount] at bound ⊢
    omega
  have written : frame.take (index * displayFrameChunkSize) ++
      (frame.drop (index * displayFrameChunkSize)).take displayFrameChunkSize =
      frame.take ((index + 1) * displayFrameChunkSize) := by
    rw [← take_add, Nat.succ_mul]
  have zeros : displayFrameBodySize - index * displayFrameChunkSize - displayFrameChunkSize =
      displayFrameBodySize - (index + 1) * displayFrameChunkSize := by
    rw [Nat.succ_mul, Nat.sub_sub]
  have taken : (frame.take (index * displayFrameChunkSize)).length = index * displayFrameChunkSize :=
    length_take_of_le (by omega)
  simp only [expecting, if_neg bound.ne, chunkOf, Bridge.dispatch, Bridge.handleDisplayFrameChunk, ne_eq, not_true_eq_false,
    if_false, take_left' taken, ← drop_drop, drop_left' taken, drop_replicate, zeros, written]
  split
  · rename_i last
    rw [last]
    have all : (displayFrameChunkCount * displayFrameChunkSize) = frame.length := length.symm
    rw [all, take_length, ← length, Nat.sub_self]
    simp
  · rfl

theorem expecting_again {index : Nat} (bound : index + 1 < displayFrameChunkCount) :
    (expecting call transferId queued (index + 1)).dispatch (chunkOf call transferId index) =
      (.displayFrameAck ⟨transferId, index + 1⟩, expecting call transferId queued (index + 1)) := by
  simp [expecting, bound.ne, chunkOf, Bridge.dispatch, Bridge.handleDisplayFrameChunk]

theorem sendChunks_meets (prompt : call.Prompt) {index left : Nat} (all : index + left = displayFrameChunkCount) :
    Meets (Quiet (expecting call transferId queued index))
      (sendChunks call.link transferId call.framebuffer.val (range' index left))
      (fun _ => Quiet (expecting call transferId queued displayFrameChunkCount)) (Unserved call) := by
  induction left generalizing index with
  | zero => exact .pure fun _ quiet => all ▸ quiet
  | succ left ih =>
    have recovers : Recovers (expecting call transferId queued (index + 1)) (chunkOf call transferId index) transferId
        (index + 1) (call.link (index + 1)) := by
      cases left with
      | zero => exact .inr (all ▸ prompt.2)
      | succ left => exact .inl (expecting_again (by omega))
    exact .bind (step_meets (by omega) (expecting_chunk (by omega)) recovers prompt _) fun _ => ih (by omega)

theorem sendDisplayFrame_meets (prompt : call.Prompt) :
    Meets (Quiet ⟨transfer, queued⟩) (sendDisplayFrame call.link call.framebuffer)
      (fun _ => Quiet ⟨none, queued ++ [call.framebuffer.val]⟩) (Unserved call) := by
  refine .next ⟨fun _ quiet => quiet⟩ fun transferId => ?_
  refine .next (.update fun _ quiet => ⟨quiet.1, quiet.2, quiet.3⟩) fun _ => ?_
  have begins (transfer : Option DisplayTransferState) : Bridge.dispatch ⟨transfer, queued⟩ (.frameBegin transferId) =
      (.displayFrameAck ⟨transferId, 0⟩, expecting call transferId queued 0) := rfl
  refine .bind (step_meets (by decide) (begins transfer) (.inl (begins _)) prompt _) fun _ => ?_
  exact sendChunks_meets prompt (Nat.zero_add _)

end

theorem prompt_reliable {s : Serial} {call : DisplayCall} (quiet : ∃ bridge, Quiet bridge s) (prompt : call.Prompt) :
    call.Reliable s ∧ ∃ bridge, Quiet bridge (call.run s) := by
  obtain ⟨⟨transfer, queued⟩, quiet⟩ := quiet
  have before : s.bridge.queuedFrames = queued := congrArg Bridge.queuedFrames quiet.bridge
  have met := (sendDisplayFrame_meets prompt).exits s quiet
  unfold DisplayCall.Reliable DisplayCall.run
  cases run : sendDisplayFrame call.link call.framebuffer s with
  | mk result after =>
    rw [run] at met
    cases result with
    | error e => exact ⟨⟨fun served => absurd served met.2, nofun⟩, met.1⟩
    | ok done =>
      have queued := congrArg Bridge.queuedFrames met.bridge
      refine ⟨⟨fun _ => ⟨rfl, queued.trans (by rw [before])⟩, fun _ => ?_⟩, _, met⟩
      rw [queued, getLast?_concat]

theorem display_transfer_reliable (calls : List DisplayCall) (prompt : ∀ call ∈ calls, call.Prompt) :
    Throughout DisplayCall.run (fun s call => call.Reliable s) Serial.new calls := by
  have quiet : ∃ bridge, Quiet bridge Serial.new := ⟨_, rfl, rfl, rfl⟩
  generalize Serial.new = s at quiet ⊢
  induction calls generalizing s with
  | nil => trivial
  | cons call calls ih =>
    obtain ⟨reliable, next⟩ := prompt_reliable quiet (prompt call mem_cons_self)
    exact ⟨reliable, ih (fun call member => prompt call (mem_cons_of_mem _ member)) _ next⟩

def filledWith (byte : BitVec 8) : Framebuffer := ⟨replicate displayFrameBodySize byte, length_replicate⟩

def answeredAtOnce : Window := ⟨[], [.requestArrives, .replyArrives]⟩

-- The first begin and the first last chunk are lost, and the first acknowledgement of the fourth chunk.
def lossyCall : DisplayCall where
  framebuffer := filledWith 1
  link step attempt :=
    if attempt = 0 ∧ (step = 0 ∨ step = 8) then ⟨[], [.requestLost]⟩
    else if attempt = 0 ∧ step = 4 then ⟨[], [.requestArrives, .replyLost]⟩
    else answeredAtOnce

theorem display_transfer_reliable_lossy : lossyCall.Served ∧ lossyCall.Reliable Serial.new := by
  have prompt : ∀ call ∈ [lossyCall], call.Prompt := by
    intro call member
    rw [mem_singleton.mp member]
    decide +kernel
  exact ⟨by decide +kernel, (display_transfer_reliable [lossyCall] prompt).1⟩

def lostFinalAck : DisplayCall where
  framebuffer := filledWith 1
  link step attempt := if step = 8 ∧ attempt = 0 then ⟨[], [.requestArrives, .replyLost]⟩ else answeredAtOnce

-- The first begin arrives after its timeout, so that there are two acknowledgements of it.
def lateBegin : DisplayCall where
  framebuffer := filledWith 1
  link step attempt :=
    if step = 0 then ⟨[], if attempt = 0 then [] else [.requestArrives, .requestArrives, .replyArrives]⟩
    else ⟨[], [.replyArrives, .requestArrives, .replyArrives]⟩

-- The acknowledgements of the second begin and of the first chunk stay under way until the transfer ids repeat.
def delayedCalls : List DisplayCall :=
  ⟨filledWith 1, fun step attempt =>
      if step = 0 then lateBegin.link step attempt else ⟨[], if attempt = 0 then [.requestArrives] else [.requestLost]⟩⟩ ::
    replicate 255 ⟨filledWith 1, fun _ _ => ⟨[], [.requestLost]⟩⟩

def repeatedId : DisplayCall where
  framebuffer := filledWith 2
  link step _ := if step < 2 then ⟨[], [.requestLost, .replyArrives]⟩ else answeredAtOnce

theorem display_transfer_fails :
    (lostFinalAck.Served ∧ (sendDisplayFrame lostFinalAck.link lostFinalAck.framebuffer Serial.new).1 =
      .error "DISPLAY_FRAME_CHUNK: DISPLAY_FRAME_ACK timeout waiting for transfer 0 chunk progress 8 after 4 attempts") ∧
    (lateBegin.Served ∧ (sendDisplayFrame lateBegin.link lateBegin.framebuffer Serial.new).1 =
      .error "DISPLAY_FRAME_CHUNK: DISPLAY_FRAME_ACK next_chunk_index mismatch: expected 1, got 0; modem transport is desynchronized") ∧
    (sendDisplayFrame repeatedId.link repeatedId.framebuffer (delayedCalls.foldl DisplayCall.run Serial.new)).1 = .ok () ∧
      (repeatedId.run (delayedCalls.foldl DisplayCall.run Serial.new)).bridge.queuedFrames.getLast? ≠
        some repeatedId.framebuffer.val := by
  decide +kernel

end Sonde.System
