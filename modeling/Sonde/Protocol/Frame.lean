import Sonde.Protocol.Messages

namespace Sonde.Protocol
open Lib List

def headerSize : Nat := 11
def maxFrameSize : Nat := 250
def aeadTagSize : Nat := 16
def minFrameSize : Nat := headerSize + aeadTagSize
def maxPayloadSize : Nat := maxFrameSize - headerSize - aeadTagSize
def maxAppDataBlobSize : Nat := maxPayloadSize - 5
def maxCommandBlobSize : Nat := maxPayloadSize - 30

structure FrameHeader where
  keyHint : BitVec 16
  msgType : BitVec 8
  nonce : BitVec 64
  deriving DecidableEq, Repr

open FrameHeader

def FrameHeader.toBytes (header : FrameHeader) : Bytes :=
  toBigEndian 2 header.keyHint.toNat ++ header.msgType :: toBigEndian 8 header.nonce.toNat

def FrameHeader.fromBytes (bytes : Bytes) : FrameHeader where
  keyHint := BitVec.ofNat 16 (ofBigEndian (bytes.take 2))
  msgType := bytes.getD 2 0
  nonce := BitVec.ofNat 64 (ofBigEndian ((bytes.drop 3).take 8))

/-- `AeadProvider` (`encrypt` and `decrypt` are its `seal` and `open`) and `Sha256Provider`. -/
structure Provider where
  encrypt : Bytes32 → Bytes → Bytes → Bytes → Bytes
  decrypt : Bytes32 → Bytes → Bytes → Bytes → Option Bytes
  hash : Bytes → Bytes32
  decrypt_encrypt : ∀ key nonce aad plaintext, decrypt key nonce aad (encrypt key nonce aad plaintext) = some plaintext
  length_encrypt : ∀ key nonce aad plaintext, (encrypt key nonce aad plaintext).length = plaintext.length + aeadTagSize

attribute [simp] Provider.decrypt_encrypt Provider.length_encrypt

def pskBytes (psk : Bytes32) : Bytes := toBigEndian 32 psk.toNat

def keyHintFromPsk (provider : Provider) (psk : Bytes32) : BitVec 16 := (provider.hash (pskBytes psk)).setWidth 16

def buildGcmNonce (provider : Provider) (psk : Bytes32) (msgType : BitVec 8) (frameNonce : Bytes) : Bytes :=
  (toBigEndian 32 (provider.hash (pskBytes psk)).toNat).take 3 ++ msgType :: frameNonce

inductive EncodeError where
  | frameTooLarge
  | cborError (message : String)

structure DecodedFrame where
  header : FrameHeader
  ciphertextAndTag : Bytes
  deriving DecidableEq, Repr

def encodeFrame (provider : Provider) (header : FrameHeader) (payloadCbor : Bytes) (psk : Bytes32) :
    Except EncodeError Bytes :=
  let totalSize := headerSize + payloadCbor.length + aeadTagSize
  if totalSize > maxFrameSize then .error .frameTooLarge
  else
    let headerBytes := header.toBytes
    let gcmNonce := buildGcmNonce provider psk header.msgType (toBigEndian 8 header.nonce.toNat)
    let ciphertextAndTag := provider.encrypt psk gcmNonce headerBytes payloadCbor
    if headerSize + ciphertextAndTag.length > maxFrameSize then .error .frameTooLarge
    else .ok (headerBytes ++ ciphertextAndTag)

def decodeFrame (raw : Bytes) : Except DecodeError DecodedFrame :=
  if raw.length < minFrameSize then .error .tooShort
  else if raw.length > maxFrameSize then .error .tooLong
  else .ok ⟨fromBytes (raw.take headerSize), raw.drop headerSize⟩

/-- `open_frame` with an AEAD whose `open` is `decrypt`. -/
def openFrameWith (decrypt : Bytes32 → Bytes → Bytes → Bytes → Option Bytes) (provider : Provider) (frame : DecodedFrame)
    (psk : Bytes32) : Except DecodeError Bytes :=
  let headerBytes := frame.header.toBytes
  let gcmNonce := buildGcmNonce provider psk frame.header.msgType (toBigEndian 8 frame.header.nonce.toNat)
  match decrypt psk gcmNonce headerBytes frame.ciphertextAndTag with
  | some plaintext => .ok plaintext
  | none => .error .authenticationFailed

def openFrame (provider : Provider) (frame : DecodedFrame) (psk : Bytes32) : Except DecodeError Bytes :=
  openFrameWith provider.decrypt provider frame psk

@[simp] theorem FrameHeader.length_toBytes (header : FrameHeader) : header.toBytes.length = headerSize := by
  simp [toBytes, headerSize]

@[simp] theorem FrameHeader.fromBytes_toBytes (header : FrameHeader) : fromBytes header.toBytes = header := by
  have hint := ofBigEndian_toBigEndian (show header.keyHint.toNat < 256 ^ 2 from header.keyHint.isLt)
  have nonce := ofBigEndian_toBigEndian (show header.nonce.toNat < 256 ^ 8 from header.nonce.isLt)
  have first : header.toBytes.take 2 = toBigEndian 2 header.keyHint.toNat := rfl
  have later : (header.toBytes.drop 3).take 8 = toBigEndian 8 header.nonce.toNat := rfl
  have third : header.toBytes.getD 2 0 = header.msgType := rfl
  simp only [fromBytes, first, later, third, hint, nonce, BitVec.ofNat_toNat, BitVec.setWidth_eq]

theorem FrameHeader.toBytes_fromBytes {bytes : Bytes} (size : bytes.length = headerSize) :
    (fromBytes bytes).toBytes = bytes := by
  match bytes, size with
  | b :: b' :: msgType :: nonce, size =>
    have hint : toBigEndian 2 (fromBytes (b :: b' :: msgType :: nonce)).keyHint.toNat = [b, b'] :=
      toBigEndian_ofBigEndian rfl (by decide)
    have whole : nonce.take 8 = nonce := take_of_length_le (by simp [headerSize] at size; omega)
    have later : toBigEndian 8 (fromBytes (b :: b' :: msgType :: nonce)).nonce.toNat = nonce.take 8 :=
      toBigEndian_ofBigEndian (by simpa [whole, headerSize] using size) (by decide)
    rw [toBytes, hint, later, whole]
    rfl

variable {payload : Bytes} {psk : Bytes32} {header : FrameHeader} {provider : Provider}

theorem tooLarge_iff (payload : Bytes) :
    headerSize + payload.length + aeadTagSize > maxFrameSize ↔ ¬payload.length ≤ maxPayloadSize := by
  simp only [headerSize, aeadTagSize, maxFrameSize, maxPayloadSize]
  omega

theorem encodeFrame_ok {raw : Bytes} : encodeFrame provider header payload psk = .ok raw ↔
      payload.length ≤ maxPayloadSize ∧
      header.toBytes ++ provider.encrypt psk (buildGcmNonce provider psk header.msgType
        (toBigEndian 8 header.nonce.toNat)) header.toBytes payload = raw := by
  simp only [encodeFrame, Provider.length_encrypt, ← Nat.add_assoc, tooLarge_iff]
  split <;> simp_all

theorem decodeFrame_append (header : FrameHeader) {body : Bytes} (long : aeadTagSize ≤ body.length)
    (short : headerSize + body.length ≤ maxFrameSize) : decodeFrame (header.toBytes ++ body) = .ok ⟨header, body⟩ := by
  have head : (header.toBytes ++ body).take headerSize = header.toBytes := take_left' header.length_toBytes
  have tail : (header.toBytes ++ body).drop headerSize = body := drop_left' header.length_toBytes
  have notShort : ¬headerSize + body.length < minFrameSize := by
    simp only [minFrameSize]
    omega
  have notLong : ¬headerSize + body.length > maxFrameSize := by omega
  simp only [decodeFrame, length_append, length_toBytes, if_neg notShort, if_neg notLong, head, tail,
    fromBytes_toBytes]

theorem encodeFrame_opens {raw : Bytes} (sealed : encodeFrame provider header payload psk = .ok raw) :
    ∃ decoded, decodeFrame raw = .ok decoded ∧ decoded.header = header ∧ openFrame provider decoded psk = .ok payload := by
  obtain ⟨room, rfl⟩ := encodeFrame_ok.mp sealed
  refine ⟨_, decodeFrame_append header ?_ ?_, rfl, ?_⟩
  · simp
  · simp only [Provider.length_encrypt, headerSize, aeadTagSize, maxFrameSize, maxPayloadSize] at room ⊢
    omega
  · simp [openFrame, openFrameWith]

theorem encodeFrame_inj {payload' frame : Bytes} (first : encodeFrame provider header payload psk = .ok frame)
    (second : encodeFrame provider header payload' psk = .ok frame) : payload = payload' := by
  obtain ⟨decoded, decodes, -, opens⟩ := encodeFrame_opens first
  obtain ⟨decoded', decodes', -, opens'⟩ := encodeFrame_opens second
  rw [decodes] at decodes'
  cases decodes'
  rw [opens] at opens'
  exact Except.ok.inj opens'

theorem decodeFrame_ok {raw : Bytes} {decoded : DecodedFrame} (decodes : decodeFrame raw = .ok decoded) :
    decoded.header.toBytes ++ decoded.ciphertextAndTag = raw ∧ raw.length ≤ maxFrameSize := by
  unfold decodeFrame at decodes
  split at decodes
  · cases decodes
  split at decodes
  · cases decodes
  rename_i long short
  cases decodes
  have size : (raw.take headerSize).length = headerSize := by
    rw [length_take, min_eq_left]
    simp only [minFrameSize] at long
    omega
  rw [toBytes_fromBytes size]
  exact ⟨take_append_drop .., not_lt.mp short⟩

/-! ## Frames that were sealed -/

/-- A call of `AeadProvider::seal`. -/
structure Sealing where
  key : Bytes32
  nonce : Bytes
  aad : Bytes
  plaintext : Bytes
  deriving DecidableEq

/-- The calls of `seal` that the calls of `encode_frame` with these headers, payloads and PSKs make. -/
def sealings (provider : Provider) (calls : List (FrameHeader × Bytes × Bytes32)) : List Sealing :=
  calls.filterMap fun (header, payload, psk) =>
    if headerSize + payload.length + aeadTagSize > maxFrameSize then none
    else some ⟨psk, buildGcmNonce provider psk header.msgType (toBigEndian 8 header.nonce.toNat), header.toBytes, payload⟩

/-- The `open` of an ideal AEAD: a ciphertext opens only under the key, nonce and associated data of a sealing that gave it. -/
def idealDecrypt (provider : Provider) (log : List Sealing) (key : Bytes32) (nonce aad ciphertext : Bytes) : Option Bytes :=
  (log.find? fun s => s = ⟨key, nonce, aad, s.plaintext⟩ ∧ provider.encrypt key nonce aad s.plaintext = ciphertext).map
    (·.plaintext)

theorem idealDecrypt_some {log : List Sealing} {key : Bytes32} {nonce aad ciphertext plaintext : Bytes}
    (opened : idealDecrypt provider log key nonce aad ciphertext = some plaintext) :
    ⟨key, nonce, aad, plaintext⟩ ∈ log ∧ provider.encrypt key nonce aad plaintext = ciphertext := by
  obtain ⟨s, found, rfl⟩ := Option.map_eq_some_iff.mp opened
  obtain ⟨here, gives⟩ := by simpa using find?_some found
  exact ⟨here ▸ mem_of_find?_eq_some found, gives⟩

theorem idealDecrypt_mem {log : List Sealing} {s : Sealing} (member : s ∈ log) :
    idealDecrypt provider log s.key s.nonce s.aad (provider.encrypt s.key s.nonce s.aad s.plaintext) = some s.plaintext := by
  cases opened : idealDecrypt provider log s.key s.nonce s.aad (provider.encrypt s.key s.nonce s.aad s.plaintext) with
  | none =>
    have missed := find?_eq_none.mp (Option.map_eq_none_iff.mp opened) s member
    simp at missed
  | some plaintext =>
    have same := congrArg (provider.decrypt s.key s.nonce s.aad) (idealDecrypt_some opened).2
    simpa using same

theorem mem_sealings {calls : List (FrameHeader × Bytes × Bytes32)} {s : Sealing} : s ∈ sealings provider calls ↔
    ∃ header payload psk, (header, payload, psk) ∈ calls ∧ payload.length ≤ maxPayloadSize ∧
      s = ⟨psk, buildGcmNonce provider psk header.msgType (toBigEndian 8 header.nonce.toNat), header.toBytes, payload⟩ := by
  simp only [sealings, mem_filterMap, Prod.exists, tooLarge_iff, Option.ite_none_left_eq_some, not_not, Option.some.injEq,
    eq_comm (a := s)]

theorem frame_codec (provider : Provider) (calls : List (FrameHeader × Bytes × Bytes32)) (psk : Bytes32) :
    (∀ header payload, (header, payload, psk) ∈ calls → payload.length ≤ maxPayloadSize → ∃ frame decoded,
      encodeFrame provider header payload psk = .ok frame ∧ frame.length ≤ maxFrameSize ∧
      decodeFrame frame = .ok decoded ∧ decoded.header = header ∧ openFrame provider decoded psk = .ok payload ∧
      openFrameWith (idealDecrypt provider (sealings provider calls)) provider decoded psk = .ok payload) ∧
    (∀ header payload, maxPayloadSize < payload.length → encodeFrame provider header payload psk = .error .frameTooLarge) ∧
    ∀ raw, (∀ header payload, (header, payload, psk) ∈ calls → encodeFrame provider header payload psk ≠ .ok raw) →
      ∀ decoded, decodeFrame raw = .ok decoded →
        openFrameWith (idealDecrypt provider (sealings provider calls)) provider decoded psk =
          .error .authenticationFailed := by
  refine ⟨fun header payload called room => ?_, fun header payload long => ?_, fun raw unsealed decoded decodes => ?_⟩
  · obtain ⟨frame, sealing⟩ : ∃ frame, encodeFrame provider header payload psk = .ok frame :=
      ⟨_, encodeFrame_ok.mpr ⟨room, rfl⟩⟩
    obtain ⟨decoded, decodes, rfl, opens⟩ := encodeFrame_opens sealing
    have whole := decodeFrame_ok decodes
    refine ⟨frame, decoded, sealing, whole.2, decodes, rfl, opens, ?_⟩
    have body := append_cancel_left ((encodeFrame_ok.mp sealing).2.trans whole.1.symm)
    simp only [openFrameWith, ← body, idealDecrypt_mem (mem_sealings.mpr ⟨_, _, _, called, room, rfl⟩)]
  · exact if_pos ((tooLarge_iff payload).mpr (not_le.mpr long))
  · unfold openFrameWith
    dsimp only
    split
    · rename_i payload opened
      -- The associated data is the header: the sealing that opens is that of a frame with this header.
      obtain ⟨member, body⟩ := idealDecrypt_some opened
      obtain ⟨header, payload', psk', called, room, same⟩ := mem_sealings.mp member
      simp only [Sealing.mk.injEq] at same
      obtain ⟨rfl, -, aad, rfl⟩ := same
      have own := congrArg fromBytes aad
      rw [fromBytes_toBytes, fromBytes_toBytes] at own
      subst own
      refine absurd (encodeFrame_ok.mpr ⟨room, ?_⟩) (unsealed _ _ called)
      rw [body]
      exact (decodeFrame_ok decodes).1
    · rfl

def encodeBleEnvelope (msgType : BitVec 8) (body : Bytes) : Option Bytes :=
  if body.length > 2 ^ 16 - 1 then none else some (msgType :: toBigEndian 2 body.length ++ body)

def parseBleEnvelope (data : Bytes) : Option (BitVec 8 × Bytes) :=
  if data.length < 3 then none
  else if data.length ≠ 3 + ofBigEndian ((data.drop 1).take 2) then none
  else some (data.headD 0, data.drop 3)

def plainProvider : Provider where
  encrypt key _ _ plaintext := plaintext ++ toBigEndian aeadTagSize key.toNat
  decrypt key _ _ ciphertext :=
    let plaintext := ciphertext.take (ciphertext.length - aeadTagSize)
    if ciphertext = plaintext ++ toBigEndian aeadTagSize key.toNat then some plaintext else none
  hash _ := 0
  decrypt_encrypt := by simp
  length_encrypt := by simp

end Sonde.Protocol
