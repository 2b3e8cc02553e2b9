import Sonde.Node.WakeCycle

/-!
# Frames that a GET_CHUNK attempt hears

A frame that the node can open and that is not a CHUNK does not end the attempt.
-/

namespace Sonde.Node
open Lib Lib.Program Protocol

variable {τ : Type}

section
variable (link : Link τ) (provider : Provider) (reader : Cbor.Reader) (identity : NodeIdentity) (chunkIndex : Nat)

def sendGetChunk (left : Nat) : Exchange τ (BitVec 64) := do
  Program.onlyIf (left < maxRetries) (delayMs link retryDelayMs)
  sendInSequence link provider identity (.getChunk chunkIndex)

def hearChunk (seq : BitVec 64) : Exchange τ (Option Bytes) := do
  let now ← elapsedMs link
  awaitChunk link provider reader identity (saturatingAdd now responseTimeoutMs) seq chunkIndex link.patience

inductive Missed : Nat → Radio τ → Nat → Radio τ → Prop
  | rfl {left : Nat} {radio : Radio τ} : Missed left radio left radio
  | miss {left left' : Nat} {radio sent ended radio' : Radio τ} {seq : BitVec 64} :
      sendGetChunk link provider identity chunkIndex left radio = (.ok seq, sent) →
      hearChunk link provider reader identity chunkIndex seq sent = (.ok none, ended) →
      Missed left ended left' radio' → Missed (left + 1) radio left' radio'

def Heard (deadline : Nat) : List Bytes → τ → Prop
  | [], _ => True
  | raw :: frames, world =>
    let (now, world) := link.elapsedMs world
    now < deadline ∧ (link.recv (deadline - now) world).1 = .ok (some raw) ∧
      Heard deadline frames (link.recv (deadline - now) world).2

def Answers (seq : BitVec 64) (data raw : Bytes) : Prop :=
  ∃ header payload, decodeVerifyFrame provider identity raw = .ok (header, payload) ∧ header.msgType = msgChunk ∧
    header.nonce = seq ∧ GatewayMessage.decode reader msgChunk payload = .ok (.chunk chunkIndex data)

def OtherType (raw : Bytes) : Prop :=
  ∃ header payload, decodeVerifyFrame provider identity raw = .ok (header, payload) ∧ header.msgType ≠ msgChunk

end

variable {link : Link τ} {provider : Provider} {reader : Cbor.Reader} {identity : NodeIdentity} {chunkIndex : Nat}

theorem verifyAndDecodeChunk_answer {seq : BitVec 64} {data raw : Bytes}
    (answers : Answers provider reader identity chunkIndex seq data raw) :
    verifyAndDecodeChunk provider reader identity raw seq chunkIndex = .ok data := by
  obtain ⟨header, payload, verified, isChunk, rfl, decoded⟩ := answers
  simp [verifyAndDecodeChunk, verified, bind, Except.bind, isChunk, decoded]

theorem verifyAndDecodeChunk_other {seq : BitVec 64} {raw : Bytes} (other : OtherType provider identity raw) :
    ∃ msgType, verifyAndDecodeChunk provider reader identity raw seq chunkIndex = .error (.unexpectedMsgType msgType) := by
  obtain ⟨header, payload, verified, isOther⟩ := other
  exact ⟨header.msgType, by simp [verifyAndDecodeChunk, verified, bind, Except.bind, isOther]⟩

theorem awaitChunk_turn {deadline : Nat} {seq : BitVec 64} {raw : Bytes} {frames : List Bytes} (patience : Nat)
    {radio : Radio τ} (heard : Heard link deadline (raw :: frames) radio.world) :
    ∃ world, Heard link deadline frames world ∧
      awaitChunk link provider reader identity deadline seq chunkIndex (patience + 1) radio =
        (match verifyAndDecodeChunk provider reader identity raw seq chunkIndex with
          | .ok data => return some data
          | .error (.unexpectedMsgType _) =>
            awaitChunk link provider reader identity deadline seq chunkIndex patience
          | .error _ => return none : Exchange τ (Option Bytes)) { radio with world := world } := by
  obtain ⟨early, received, later⟩ := heard
  refine ⟨_, later, ?_⟩
  simp only [awaitChunk, bind_run, elapsedMs, if_neg (not_le.mpr early), receive]
  exact received ▸ rfl

theorem awaitChunk_heard {deadline : Nat} {seq : BitVec 64} {data raw : Bytes} {frames : List Bytes} {patience : Nat}
    {radio : Radio τ} (others : ∀ frame ∈ frames, OtherType provider identity frame)
    (answers : Answers provider reader identity chunkIndex seq data raw)
    (heard : Heard link deadline (frames ++ [raw]) radio.world) (patient : frames.length < patience) :
    ∃ after, awaitChunk link provider reader identity deadline seq chunkIndex patience radio = (.ok (some data), after) ∧
      after.passed = radio.passed := by
  induction frames generalizing patience radio with
  | nil =>
    obtain ⟨patience, rfl⟩ := Nat.exists_eq_succ_of_ne_zero (Nat.ne_zero_of_lt patient)
    obtain ⟨world, -, turn⟩ := awaitChunk_turn patience heard
    rw [verifyAndDecodeChunk_answer answers] at turn
    exact ⟨_, turn, rfl⟩
  | cons frame frames ih =>
    obtain ⟨patience, rfl⟩ := Nat.exists_eq_succ_of_ne_zero (Nat.ne_zero_of_lt patient)
    obtain ⟨world, later, turn⟩ := awaitChunk_turn patience heard
    obtain ⟨msgType, unexpected⟩ := verifyAndDecodeChunk_other (others frame List.mem_cons_self)
    rw [unexpected] at turn
    obtain ⟨after, run, passed⟩ := @ih patience { radio with world := world }
      (fun frame member => others frame (List.mem_cons_of_mem _ member)) later (Nat.lt_of_succ_lt_succ patient)
    exact ⟨after, turn.trans run, passed⟩

theorem chunkAttempts_succ (left : Nat) : chunkAttempts link provider reader identity chunkIndex (left + 1) = (do
      let seq ← sendGetChunk link provider identity chunkIndex left
      let response ← hearChunk link provider reader identity chunkIndex seq
      match response with
      | some data => return data
      | none => chunkAttempts link provider reader identity chunkIndex left) := by
  unfold sendGetChunk hearChunk
  simp only [Program.bind_assoc]
  rfl

theorem Missed.chunkAttempts_eq {left left' : Nat} {radio radio' : Radio τ}
    (missed : Missed link provider reader identity chunkIndex left radio left' radio') :
    chunkAttempts link provider reader identity chunkIndex left radio =
      chunkAttempts link provider reader identity chunkIndex left' radio' := by
  induction missed with
  | rfl => rfl
  | miss sends hears _ ih =>
    simp only [chunkAttempts_succ, bind_run, sends, hears]
    exact ih

theorem other_types_keep_attempt (link : Link τ) (provider : Provider) (reader : Cbor.Reader) (identity : NodeIdentity)
    (chunkIndex left : Nat) (start attempt sent : Radio τ) (seq : BitVec 64) (frames : List Bytes) (raw data : Bytes)
    (missed : Missed link provider reader identity chunkIndex (maxRetries + 1) start (left + 1) attempt)
    (sends : sendGetChunk link provider identity chunkIndex left attempt = (.ok seq, sent))
    (others : ∀ frame ∈ frames, OtherType provider identity frame)
    (answers : Answers provider reader identity chunkIndex seq data raw)
    (heard : Heard link (saturatingAdd (link.elapsedMs sent.world).1 responseTimeoutMs) (frames ++ [raw])
      (link.elapsedMs sent.world).2) (patient : frames.length < link.patience) :
    ∃ after, getChunkWithRetry link provider reader identity chunkIndex start = (.ok data, after) ∧
      after.passed = sent.passed := by
  let asked : Radio τ := { sent with world := (link.elapsedMs sent.world).2 }
  have arrives : Heard link _ (frames ++ [raw]) asked.world := heard
  obtain ⟨after, run, passed⟩ := awaitChunk_heard others answers arrives patient
  have hears : hearChunk link provider reader identity chunkIndex seq sent = (.ok (some data), after) := run
  refine ⟨after, ?_, passed⟩
  unfold getChunkWithRetry
  simp only [missed.chunkAttempts_eq, chunkAttempts_succ, bind_run, sends, hears, pure_run]

def twoFrames : Link Script := { scriptedPlatform.toLink with patience := 2 }

def heardFirst (frame : Option Bytes) : Radio Script :=
  ⟨⟨[], [frame, gatewayFrame plainProvider 5 (.chunk 0 [9])]⟩, 5, none, []⟩

def staleCommand : Option Bytes := gatewayFrame plainProvider 7 (.command 5 0 .nop none)

theorem other_types_keep_attempt_stale :
    ∃ after, getChunkWithRetry twoFrames plainProvider .definite smallIdentity 0 (heardFirst staleCommand) =
        (.ok [9], after) ∧ after.passed.length = 1 := by
  obtain ⟨after, run, passed⟩ := other_types_keep_attempt twoFrames plainProvider .definite smallIdentity 0 3
    (heardFirst staleCommand) (heardFirst staleCommand)
    (sendGetChunk twoFrames plainProvider smallIdentity 0 3 (heardFirst staleCommand)).2 5
    [staleCommand.get (by decide)] ((gatewayFrame plainProvider 5 (.chunk 0 [9])).get (by decide)) [9] .rfl rfl
    (by
      intro frame member
      obtain rfl := List.mem_singleton.mp member
      exact ⟨_, _, rfl, by decide⟩)
    ⟨_, _, rfl, by decide, by decide, by decide⟩ ⟨by decide, rfl, by decide, rfl, trivial⟩ (by decide)
  exact ⟨after, run, by rw [passed]; rfl⟩

-- Too short for a frame; sealed with another key; of another GET_CHUNK; with another index; without a CBOR payload.
def endingFrames : List (Option Bytes) :=
  [some [1, 2, 3], (encodeFrame plainProvider ⟨0, msgChunk, 5⟩ [] 8).toOption,
    gatewayFrame plainProvider 4 (.chunk 0 [9]), gatewayFrame plainProvider 5 (.chunk 1 [9]),
    (encodeFrame plainProvider ⟨0, msgChunk, 5⟩ [] smallIdentity.psk).toOption]

theorem ending_frames_lose_chunk :
    Answers plainProvider .definite smallIdentity 0 5 [9]
        ((gatewayFrame plainProvider 5 (.chunk 0 [9])).get (by decide)) ∧
      (sendGetChunk twoFrames plainProvider smallIdentity 0 3 (heardFirst none)).1 = .ok 5 ∧
      (endingFrames.map fun frame =>
        let (result, after) := getChunkWithRetry twoFrames plainProvider .definite smallIdentity 0 (heardFirst frame)
        (result, after.passed.length)) = List.replicate 5 (.error (.chunkTransferFailed 0), 4) :=
  ⟨⟨_, _, rfl, by decide, by decide, by decide⟩, rfl, by decide +kernel⟩

end Sonde.Node
