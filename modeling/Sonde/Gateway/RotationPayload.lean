import Sonde.Gateway.Interleaving
import Sonde.Lib.Hex
import Sonde.Lib.Run
import Sonde.Protocol.Messages

/-!
# Rotation payloads

`handle_rotation_payload` up to `execute_rotation`, with its rate limiter.
-/

namespace Sonde.Gateway
open Lib Protocol List

/-! ## The payload -/

def minPayloadLen : Nat := 1 + 32 + 12 + 16
def maxPayloadLen : Nat := 1024
-- `sonde-rotation-v1`
def hkdfSalt : Bytes :=
  [0x73, 0x6f, 0x6e, 0x64, 0x65, 0x2d, 0x72, 0x6f, 0x74, 0x61, 0x74, 0x69, 0x6f, 0x6e, 0x2d, 0x76, 0x31]

inductive RotationError where
  | tooShort (len : Nat)
  | tooLarge (len : Nat)
  | unknownVersion (version : BitVec 8)
  | lowOrderPoint
  | decryptionFailed
  | invalidKeyLength (len : Nat)
  | plaintextParse (message : String)

def RotationError.text : RotationError → String
  | .tooShort len => s!"payload too short: {len} bytes (min {minPayloadLen})"
  | .tooLarge len => s!"payload too large: {len} bytes (max {maxPayloadLen})"
  | .unknownVersion version => s!"unknown rotation payload version: 0x{String.ofList (fixedHex 2 version.toNat)}"
  | .lowOrderPoint => "ephemeral public key is a low-order point"
  | .decryptionFailed => "rotation payload decryption failed"
  | .invalidKeyLength len => s!"new_master_key must be 32 bytes, got {len}"
  | .plaintextParse message => s!"rotation plaintext parse error: {message}"

structure DecryptedRotation where
  newMasterKey : Bytes32
  rotationCode : String

/-- X25519, HKDF-SHA-256 (salt, secret, info) and AES-256-GCM (key, nonce, associated data, ciphertext). -/
structure RotationCrypto where
  diffieHellman : Bytes32 → Bytes → Bytes
  hkdf : Bytes → Bytes → Bytes → Bytes32
  decrypt : Bytes32 → Bytes → Bytes → Bytes → Option Bytes

def getValue (entries : List (Cbor × Cbor)) (key : Nat) : Option Cbor :=
  (entries.find? fun entry => asU64 entry.1 = some key).map (·.2)

def getBytes (entries : List (Cbor × Cbor)) (key : Nat) (field : String) : Except RotationError Bytes :=
  match getValue entries key with
  | some (.bytes data) => .ok data
  | some _ => .error (.plaintextParse ("`" ++ field ++ "` must be bstr"))
  | none => .error (.plaintextParse ("missing `" ++ field ++ "`"))

def getText (entries : List (Cbor × Cbor)) (key : Nat) (field : String) : Except RotationError Bytes :=
  match getValue entries key with
  | some (.text utf8) => .ok utf8
  | some _ => .error (.plaintextParse ("`" ++ field ++ "` must be tstr"))
  | none => .error (.plaintextParse ("missing `" ++ field ++ "`"))

-- `[A-Z0-9]`
def isCodeByte (b : BitVec 8) : Bool := 0x41 ≤ b.toNat ∧ b.toNat ≤ 0x5a ∨ 0x30 ≤ b.toNat ∧ b.toNat ≤ 0x39

section
variable (crypto : RotationCrypto) (reader : Cbor.Reader)

def parseRotationPlaintext (plaintext : Bytes) : Except RotationError DecryptedRotation :=
  match reader.fromReader plaintext with
  | .error e => .error (.plaintextParse s!"CBOR decode: {e}")
  | .ok (.map entries) => do
    let newKeyBytes ← getBytes entries 1 "new_master_key"
    if newKeyBytes.length ≠ 32 then .error (.invalidKeyLength newKeyBytes.length)
    else do
      let rotationCode ← getText entries 2 "rotation_code"
      if rotationCode.length ≠ 6 ∨ ¬rotationCode.all isCodeByte then
        -- The source appends the code.
        .error (.plaintextParse "rotation_code must be 6 characters from [A-Z0-9], got ")
      else
        return ⟨BitVec.ofNat 256 (ofBigEndian newKeyBytes), String.ofList (rotationCode.map fun b => Char.ofNat b.toNat)⟩
  | .ok _ => .error (.plaintextParse "expected CBOR map")

def rotationInfo (gatewayId : Bytes) (epoch : Nat) : Bytes := gatewayId ++ toBigEndian 8 epoch

def decryptRotationPayload (payload : Bytes) (secret : Bytes32) (gatewayId : Bytes) (currentEpoch : Nat) :
    Except RotationError DecryptedRotation :=
  if payload.length < minPayloadLen then .error (.tooShort payload.length)
  else if payload.length > maxPayloadLen then .error (.tooLarge payload.length)
  else if payload.headD 0 ≠ 1 then .error (.unknownVersion (payload.headD 0))
  else
    let sharedSecret := crypto.diffieHellman secret ((payload.drop 1).take 32)
    if sharedSecret.all (· = 0) then .error .lowOrderPoint
    else
      let info := rotationInfo gatewayId currentEpoch
      let derivedKey := crypto.hkdf hkdfSalt sharedSecret info
      match crypto.decrypt derivedKey ((payload.drop 33).take 12) info (payload.drop 45) with
      | none => .error .decryptionFailed
      | some plaintext => parseRotationPlaintext reader plaintext

end

def maxFailures : Nat := 3
-- 300 s; an `Instant` is a number of nanoseconds.
def window : Nat := 300000000000

structure RotationRateLimiter where
  epoch : Nat
  failures : List Nat

namespace RotationRateLimiter

def new : RotationRateLimiter := ⟨0, []⟩

-- Another epoch clears the failures.
def forEpoch (limiter : RotationRateLimiter) (epoch : Nat) : RotationRateLimiter :=
  if epoch ≠ limiter.epoch then ⟨epoch, []⟩ else limiter

def check (limiter : RotationRateLimiter) (now epoch : Nat) : Bool × RotationRateLimiter :=
  let limiter := limiter.forEpoch epoch
  let failures := limiter.failures.filter fun t => now - t < window
  (failures.length < maxFailures, { limiter with failures := failures })

def recordFailure (limiter : RotationRateLimiter) (now epoch : Nat) : RotationRateLimiter :=
  let limiter := limiter.forEpoch epoch
  { limiter with failures := limiter.failures ++ [now] }

end RotationRateLimiter

/-! ## The engine -/

variable {Blob : Type}

structure RotationEngine (Blob : Type) where
  machine : Machine Blob
  rateLimiter : RotationRateLimiter
  rotationActive : Bool
  isWritable : Bool
  x25519 : Except String Bytes32
  gatewayId : Bytes

/-- A call of `handle_rotation_payload`. `between` is what the rest of the gateway has done to the storage since the call
before; `triedAt` is the time of the payload and code checks; `rotation` has one entry for each step of `execute_rotation`. -/
structure RotationCall (Blob : Type) where
  between : Store Blob → Store Blob
  payload : Bytes
  isGrpc : Bool
  progressFault : Option StorageError
  keyIdFault : Option StorageError
  codeFault : Option StorageError
  newCode : String
  checkedAt : Nat
  triedAt : Nat
  failedAt : Nat
  rotation : List Inputs
  checked_le_tried : checkedAt ≤ triedAt
  tried_le_failed : triedAt ≤ failedAt

/-- How a call ends: before the payload and the code are checked, with one of them wrong, or after both are right. The result
of an accepted payload is `none` while its rotation is under way. -/
inductive RotationOutcome where
  | refused (message : String)
  | failed (message : String)
  | accepted (result : Option (Except String Unit))

def RotationOutcome.isFailed : RotationOutcome → Bool
  | .failed _ => true
  | _ => false

def RotationOutcome.isAccepted : RotationOutcome → Bool
  | .accepted _ => true
  | _ => false

def initRotationCode (newCode : String) (db : Db Blob) : String × Db Blob :=
  match db.rotationCode with
  | some code => (code, db)
  | none => (newCode, { db with rotationCode := some newCode })

namespace RotationEngine

def withStore (engine : RotationEngine Blob) (store : Store Blob) : RotationEngine Blob :=
  { engine with machine := { engine.machine with store := store } }

def rotate (c : IdealCrypto Blob) (engine : RotationEngine Blob) (newKey : Bytes32) (newEpoch : Nat) (inputs : List Inputs) :
    RotationOutcome × RotationEngine Blob :=
  let machine := inputs.foldl (fun m i => m.step c i) (engine.machine.startRotation c newKey newEpoch)
  match machine.task with
  | .rotated result => (.accepted (some result), { engine with machine := machine, rotationActive := false })
  | _ => (.accepted none, { engine with machine := machine, rotationActive := true })

section
variable (crypto : RotationCrypto) (c : IdealCrypto Blob) (reader : Cbor.Reader)

def tryPayload (engine : RotationEngine Blob) (call : RotationCall Blob) (currentEpoch : Nat) (secret : Bytes32) :
    RotationOutcome × RotationEngine Blob :=
  let recorded (engine : RotationEngine Blob) :=
    { engine with rateLimiter := engine.rateLimiter.recordFailure call.failedAt currentEpoch }
  match decryptRotationPayload crypto reader call.payload secret engine.gatewayId currentEpoch with
  | .error e => (.failed s!"rotation payload error: {e.text}", recorded engine)
  | .ok decrypted =>
    match call.codeFault with
    | some e => (.refused s!"failed to load rotation_code: {e}", engine)
    | none =>
      let (storedCode, db) := initRotationCode call.newCode engine.machine.store.db
      let engine := engine.withStore { engine.machine.store with db := db }
      if decrypted.rotationCode ≠ storedCode then (.failed "rotation code does not match", recorded engine)
      else if currentEpoch + 1 ≥ 2 ^ 64 then (.accepted (some (.error "epoch overflow")), engine)
      else engine.rotate c decrypted.newMasterKey (currentEpoch + 1) call.rotation

def checkPayload (engine : RotationEngine Blob) (call : RotationCall Blob) : RotationOutcome × RotationEngine Blob :=
  match call.keyIdFault, initMasterKeyId c engine.machine.store with
  | some e, _ | none, .error e => (.refused s!"failed to load master_key_epoch: {e}", engine)
  | none, .ok ((_, currentEpoch), store) =>
    let (allowed, limiter) := engine.rateLimiter.check call.checkedAt currentEpoch
    let engine := { engine.withStore store with rateLimiter := limiter }
    if ¬allowed then (.refused (if call.isGrpc then "rotation attempt rate-limited" else "rate-limited"), engine)
    else
      match engine.x25519 with
      | .error e => (.refused s!"X25519 conversion failed: {e}", engine)
      | .ok secret => engine.tryPayload crypto c reader call currentEpoch secret

def handleRotationPayload (engine : RotationEngine Blob) (call : RotationCall Blob) :
    RotationOutcome × RotationEngine Blob :=
  let engine := engine.withStore (call.between engine.machine.store)
  if ¬engine.isWritable then
    (.refused ("rotation rejected: key provider is not writable; " ++
      "use --key-provider file, dpapi, or secret-service"), engine)
  else if engine.rotationActive then (.refused "rotation already in progress", engine)
  else
    match call.progressFault with
    | some e => (.refused s!"storage error: {e}", engine)
    | none =>
      if engine.machine.store.db.pendingRotation.isSome then
        (.refused "rotation already in progress (pending_rotation exists)", engine)
      else engine.checkPayload crypto c reader call

end

end RotationEngine

/-! ## Failed checks -/

namespace RotationRateLimiter
variable (limiter : RotationRateLimiter) (start now epoch : Nat)

def recent : Nat := ((limiter.forEpoch epoch).failures.filter (start ≤ ·)).length

theorem forEpoch_epoch : (limiter.forEpoch epoch).epoch = epoch := by
  unfold forEpoch
  split
  · rfl
  · omega

theorem forEpoch_of_eq {limiter : RotationRateLimiter} (h : limiter.epoch = epoch) : limiter.forEpoch epoch = limiter :=
  if_neg (not_not_intro h.symm)

theorem check_forEpoch : (limiter.check now epoch).2.forEpoch epoch = (limiter.check now epoch).2 :=
  forEpoch_of_eq epoch (forEpoch_epoch limiter epoch)

theorem recordFailure_forEpoch : (limiter.recordFailure now epoch).forEpoch epoch = limiter.recordFailure now epoch :=
  forEpoch_of_eq epoch (forEpoch_epoch limiter epoch)

theorem recent_check (before : now < start + window) :
    (limiter.check now epoch).2.recent start epoch = limiter.recent start epoch := by
  rw [recent, recent, check_forEpoch]
  simp only [check, filter_filter]
  congr 1
  apply filter_congr
  intro t _
  have positive : 0 < window := by decide
  by_cases since : start ≤ t
  · simp [since, show now - t < window by omega]
  · simp [since]

theorem recent_of_allowed (before : now < start + window) (allowed : (limiter.check now epoch).1 = true) :
    limiter.recent start epoch < maxFailures := by
  have few : ((limiter.forEpoch epoch).failures.filter fun t => now - t < window).length < maxFailures := by
    simpa [check] using allowed
  rw [← recent_check limiter start now epoch before, recent, check_forEpoch]
  exact (length_filter_le _ _).trans_lt few

theorem recent_recordFailure (since : start ≤ now) :
    (limiter.recordFailure now epoch).recent start epoch = limiter.recent start epoch + 1 := by
  rw [recent, recent, recordFailure_forEpoch]
  simp [recordFailure, filter_append, since]

end RotationRateLimiter

namespace RotationEngine

def currentEpoch (engine : RotationEngine Blob) (call : RotationCall Blob) : Nat :=
  let epoch := getMasterKeyEpoch (call.between engine.machine.store).db
  if epoch = 0 then 1 else epoch

section
variable (crypto : RotationCrypto) (c : IdealCrypto Blob) (reader : Cbor.Reader)

def afterCall (engine : RotationEngine Blob) (call : RotationCall Blob) : RotationEngine Blob :=
  (engine.handleRotationPayload crypto c reader call).2

def failedChecks (engine : RotationEngine Blob) : List (RotationCall Blob) → Nat
  | [] => 0
  | call :: calls =>
    (if (engine.handleRotationPayload crypto c reader call).1.isFailed then 1 else 0) +
      failedChecks (engine.afterCall crypto c reader call) calls

variable {crypto c reader} {engine : RotationEngine Blob} {call : RotationCall Blob}

theorem initMasterKeyId_epoch {s s' : Store Blob} {id : Bytes32} {epoch : Nat}
    (initialised : initMasterKeyId c s = .ok ((id, epoch), s')) :
    epoch = if getMasterKeyEpoch s.db = 0 then 1 else getMasterKeyEpoch s.db := by
  unfold initMasterKeyId at initialised
  generalize (if getMasterKeyEpoch s.db = 0 then 1 else getMasterKeyEpoch s.db) = loaded at initialised ⊢
  dsimp only at initialised
  split at initialised
  · cases initialised
    rfl
  · split at initialised
    · cases initialised
    · cases initialised
      rfl

theorem rotate_limiter (engine : RotationEngine Blob) (newKey : Bytes32) (newEpoch : Nat) (inputs : List Inputs) :
    (engine.rotate c newKey newEpoch inputs).1.isFailed = false ∧
      (engine.rotate c newKey newEpoch inputs).2.rateLimiter = engine.rateLimiter := by
  unfold rotate
  dsimp only
  split <;> exact ⟨rfl, rfl⟩

variable (engine call) in
theorem tryPayload_limiter (epoch : Nat) (secret : Bytes32) :
    (engine.tryPayload crypto c reader call epoch secret).1.isFailed = false ∧
        (engine.tryPayload crypto c reader call epoch secret).2.rateLimiter = engine.rateLimiter ∨
      (engine.tryPayload crypto c reader call epoch secret).2.rateLimiter =
        engine.rateLimiter.recordFailure call.failedAt epoch := by
  unfold tryPayload
  dsimp only
  split
  · exact .inr rfl
  · split
    · exact .inl ⟨rfl, rfl⟩
    · split
      · exact .inr rfl
      · split
        · exact .inl ⟨rfl, rfl⟩
        · exact .inl (rotate_limiter _ _ _ _)

theorem tryPayload_accepted {epoch : Nat} {secret : Bytes32}
    (accepted : (engine.tryPayload crypto c reader call epoch secret).1.isAccepted = true) :
    ∃ decrypted, decryptRotationPayload crypto reader call.payload secret engine.gatewayId epoch = .ok decrypted := by
  unfold tryPayload at accepted
  cases opened : decryptRotationPayload crypto reader call.payload secret engine.gatewayId epoch with
  | error e =>
    rw [opened] at accepted
    cases accepted
  | ok decrypted => exact ⟨decrypted, rfl⟩

variable (crypto c reader engine call) in
theorem handleRotationPayload_cases :
    (∃ message, (engine.handleRotationPayload crypto c reader call).1 = .refused message) ∧
        ((engine.afterCall crypto c reader call).rateLimiter = engine.rateLimiter ∨
          (engine.afterCall crypto c reader call).rateLimiter =
            (engine.rateLimiter.check call.checkedAt (engine.currentEpoch call)).2) ∨
      (engine.rateLimiter.check call.checkedAt (engine.currentEpoch call)).1 = true ∧
        ∃ (tried : RotationEngine Blob) (secret : Bytes32),
          tried.rateLimiter = (engine.rateLimiter.check call.checkedAt (engine.currentEpoch call)).2 ∧
          engine.handleRotationPayload crypto c reader call =
            tried.tryPayload crypto c reader call (engine.currentEpoch call) secret := by
  unfold afterCall handleRotationPayload
  dsimp only
  iterate 4
    split
    · exact .inl ⟨⟨_, rfl⟩, .inl rfl⟩
  unfold checkPayload
  split
  · exact .inl ⟨⟨_, rfl⟩, .inl rfl⟩
  · exact .inl ⟨⟨_, rfl⟩, .inl rfl⟩
  next id epoch store _ initialised =>
    obtain rfl : epoch = engine.currentEpoch call := initMasterKeyId_epoch initialised
    dsimp only
    split
    · exact .inl ⟨⟨_, rfl⟩, .inr rfl⟩
    next allowed =>
      split
      · exact .inl ⟨⟨_, rfl⟩, .inr rfl⟩
      · exact .inr ⟨not_not.mp allowed, _, _, rfl, rfl⟩

theorem failedChecks_le {calls : List (RotationCall Blob)} {start stop epoch : Nat} (short : stop < start + window)
    (inside : ∀ call ∈ calls, start ≤ call.triedAt ∧ call.triedAt ≤ stop)
    (constant : Throughout (afterCall crypto c reader) (fun engine call => engine.currentEpoch call = epoch) engine calls) :
    engine.failedChecks crypto c reader calls + engine.rateLimiter.recent start epoch ≤
      max maxFailures (engine.rateLimiter.recent start epoch) := by
  induction calls generalizing engine with
  | nil => simp [failedChecks]
  | cons call calls ih =>
    obtain ⟨same, constant⟩ := constant
    obtain ⟨from_start, to_stop⟩ := inside call mem_cons_self
    have later := ih (fun call mem => inside call (mem_cons_of_mem _ mem)) constant
    have before : call.checkedAt < start + window := by
      have := call.checked_le_tried
      omega
    have since : start ≤ call.failedAt := from_start.trans call.tried_le_failed
    have kept := engine.rateLimiter.recent_check start call.checkedAt epoch before
    rw [failedChecks]
    have unfailed (ok : (engine.handleRotationPayload crypto c reader call).1.isFailed = false)
        (limiter : (engine.afterCall crypto c reader call).rateLimiter.recent start epoch =
          engine.rateLimiter.recent start epoch) :
        (if (engine.handleRotationPayload crypto c reader call).1.isFailed then 1 else 0) +
            (engine.afterCall crypto c reader call).failedChecks crypto c reader calls +
            engine.rateLimiter.recent start epoch ≤ max maxFailures (engine.rateLimiter.recent start epoch) := by
      rw [ok, ← limiter]
      simpa using later
    rcases handleRotationPayload_cases crypto c reader engine call with
      ⟨⟨message, refused⟩, limiter⟩ | ⟨allowed, tried, secret, limiter, handled⟩
    · refine unfailed (by rw [refused]; rfl) ?_
      rcases limiter with limiter | limiter
      · rw [limiter]
      · rw [limiter, same, kept]
    · rw [same] at allowed limiter handled
      rcases tried.tryPayload_limiter call epoch secret with ⟨ok, after⟩ | after
      · refine unfailed (by rw [handled]; exact ok) ?_
        rw [afterCall, handled, after, limiter, kept]
      · have few := engine.rateLimiter.recent_of_allowed start call.checkedAt epoch before allowed
        have recorded : (engine.afterCall crypto c reader call).rateLimiter.recent start epoch =
            engine.rateLimiter.recent start epoch + 1 := by
          rw [afterCall, handled, after, RotationRateLimiter.recent_recordFailure _ _ _ _ since, limiter, kept]
        split <;> omega

end

end RotationEngine

/-! ## Accepted payloads -/

theorem decryptRotationPayload_bound {crypto : RotationCrypto} {reader : Cbor.Reader} {payload gatewayId : Bytes}
    {secret : Bytes32} {epoch : Nat} {decrypted : DecryptedRotation}
    (opened : decryptRotationPayload crypto reader payload secret gatewayId epoch = .ok decrypted) : ∃ key plaintext,
      crypto.decrypt key ((payload.drop 33).take 12) (rotationInfo gatewayId epoch) (payload.drop 45) = some plaintext := by
  unfold decryptRotationPayload at opened
  dsimp only at opened
  split at opened
  · cases opened
  split at opened
  · cases opened
  split at opened
  · cases opened
  split at opened
  · cases opened
  split at opened
  · cases opened
  next plaintext decrypts => exact ⟨_, plaintext, decrypts⟩

theorem rotationInfo_epoch {gatewayId gatewayId' : Bytes} {epoch epoch' : Nat} (fits : epoch < 2 ^ 64)
    (fits' : epoch' < 2 ^ 64) (same : rotationInfo gatewayId epoch = rotationInfo gatewayId' epoch') : epoch = epoch' := by
  have digits : toBigEndian 8 epoch = toBigEndian 8 epoch' := (append_inj' same (by simp)).2
  have restored := congrArg ofBigEndian digits
  rwa [ofBigEndian_toBigEndian fits, ofBigEndian_toBigEndian fits'] at restored

-- A ciphertext is opened with one associated data at most.
def RotationCrypto.BindsData (crypto : RotationCrypto) : Prop :=
  ∀ key key' nonce info info' ciphertext plaintext plaintext', crypto.decrypt key nonce info ciphertext = some plaintext →
    crypto.decrypt key' nonce info' ciphertext = some plaintext' → info = info'

namespace RotationEngine
variable (crypto : RotationCrypto) (c : IdealCrypto Blob) (reader : Cbor.Reader)

theorem accepted_bound {engine : RotationEngine Blob} {call : RotationCall Blob}
    (accepted : (engine.handleRotationPayload crypto c reader call).1.isAccepted = true) :
    ∃ gatewayId key plaintext, crypto.decrypt key ((call.payload.drop 33).take 12)
      (rotationInfo gatewayId (engine.currentEpoch call)) (call.payload.drop 45) = some plaintext := by
  rcases handleRotationPayload_cases crypto c reader engine call with
    ⟨⟨message, refused⟩, -⟩ | ⟨-, tried, secret, -, handled⟩
  · rw [refused] at accepted
    cases accepted
  · rw [handled] at accepted
    obtain ⟨decrypted, opened⟩ := tryPayload_accepted accepted
    exact ⟨tried.gatewayId, decryptRotationPayload_bound opened⟩

theorem rotation_attempts_limited (ideal : crypto.BindsData) (engine : RotationEngine Blob)
    (calls : List (RotationCall Blob))
    (epochs : Throughout (afterCall crypto c reader) (fun engine call => engine.currentEpoch call < 2 ^ 64) engine calls) :
    (∀ done mid rest start stop epoch, calls = done ++ mid ++ rest → stop < start + window →
      (∀ call ∈ mid, start ≤ call.triedAt ∧ call.triedAt ≤ stop) →
      Throughout (afterCall crypto c reader) (fun engine call => engine.currentEpoch call = epoch)
        (done.foldl (afterCall crypto c reader) engine) mid →
      (done.foldl (afterCall crypto c reader) engine).failedChecks crypto c reader mid ≤ 3) ∧
    ∀ done first mid again rest, calls = (done ++ first :: mid) ++ again :: rest → again.payload = first.payload →
      ((done.foldl (afterCall crypto c reader) engine).handleRotationPayload crypto c reader first).1.isAccepted = true →
      (done.foldl (afterCall crypto c reader) engine).currentEpoch first <
        ((done ++ first :: mid).foldl (afterCall crypto c reader) engine).currentEpoch again →
      (((done ++ first :: mid).foldl (afterCall crypto c reader) engine).handleRotationPayload
        crypto c reader again).1.isAccepted = false := by
  constructor
  · intro done mid rest start stop epoch split short inside constant
    have few := failedChecks_le short inside constant
    simp only [maxFailures] at few
    omega
  · intro done first mid again rest split same accepted advanced
    by_contra repeated
    obtain ⟨gatewayId, key, plaintext, opens⟩ := accepted_bound crypto c reader accepted
    obtain ⟨gatewayId', key', plaintext', opens'⟩ := accepted_bound crypto c reader (Bool.eq_true_of_not_eq_false repeated)
    have from_first : Throughout (afterCall crypto c reader) (fun engine call => engine.currentEpoch call < 2 ^ 64)
        (done.foldl (afterCall crypto c reader) engine) (first :: (mid ++ again :: rest)) :=
      .of_append (by simpa [split] using epochs)
    have from_again : Throughout (afterCall crypto c reader) (fun engine call => engine.currentEpoch call < 2 ^ 64)
        ((done ++ first :: mid).foldl (afterCall crypto c reader) engine) (again :: rest) :=
      .of_append (by rwa [split] at epochs)
    rw [same] at opens'
    exact advanced.ne (rotationInfo_epoch from_first.1 from_again.1 (ideal _ _ _ _ _ _ _ _ opens opens'))

end RotationEngine

def openCrypto : RotationCrypto where
  diffieHellman _ _ := [1]
  hkdf _ _ _ := 0
  decrypt _ _ info ciphertext := if ciphertext.take 24 = info then some (ciphertext.drop 24) else none

theorem openCrypto_bindsData : openCrypto.BindsData := by
  intro key key' nonce info info' ciphertext plaintext plaintext' opens opens'
  simp only [openCrypto, Option.ite_none_right_eq_some] at opens opens'
  exact opens.1.symm.trans opens'.1

def smallEngine : RotationEngine SymbolicBlob where
  machine := smallMachine 1
  rateLimiter := .new
  rotationActive := false
  isWritable := true
  x25519 := .ok 5
  gatewayId := replicate 16 0

def smallCall : RotationCall SymbolicBlob where
  between := id
  payload := 1 :: replicate 44 0 ++ rotationInfo (replicate 16 0) 1 ++
    (Cbor.map [(.unsigned 1, .bytes (replicate 32 2)), (.unsigned 2, .text [0x41, 0x42, 0x43, 0x31, 0x32, 0x33])]).encode
  isGrpc := true
  progressFault := none
  keyIdFault := none
  codeFault := none
  newCode := "ABC123"
  checkedAt := 0
  triedAt := 0
  failedAt := 0
  rotation := replicate 16 calm
  checked_le_tried := le_refl 0
  tried_le_failed := le_refl 0

-- After its rotation the payload is not accepted any more, and three more tries fail before the limiter refuses.
theorem rotation_attempts_limited_resent :
    (smallEngine.handleRotationPayload openCrypto symbolicCrypto .definite smallCall).1.isAccepted = true ∧
      ((smallEngine.afterCall openCrypto symbolicCrypto .definite smallCall).handleRotationPayload openCrypto symbolicCrypto
        .definite smallCall).1.isAccepted = false ∧
      (smallEngine.afterCall openCrypto symbolicCrypto .definite smallCall).failedChecks openCrypto symbolicCrypto .definite
        (List.replicate 5 smallCall) ≤ 3 := by
  have limited := RotationEngine.rotation_attempts_limited openCrypto symbolicCrypto .definite openCrypto_bindsData
    smallEngine (smallCall :: replicate 5 smallCall) (by decide +kernel)
  refine ⟨by decide +kernel, ?_, ?_⟩
  · exact limited.2 [] smallCall [] smallCall (replicate 4 smallCall) rfl rfl (by decide +kernel) (by decide +kernel)
  · exact limited.1 [smallCall] (replicate 5 smallCall) [] 0 0 2 rfl (by decide)
      (fun call mem => by rw [eq_of_mem_replicate mem]; decide) (by decide +kernel)

end Sonde.Gateway
