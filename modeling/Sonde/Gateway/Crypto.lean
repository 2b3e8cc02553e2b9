import Sonde.Gateway.Registry

namespace Sonde.Gateway
open Lib

inductive StorageError where
  | notFound (what : String)
  | internal (message : String)

def StorageError.text : StorageError → String
  | .notFound what => s!"not found: {what}"
  | .internal message => s!"storage error: {message}"

instance : ToString StorageError := ⟨StorageError.text⟩

inductive Aad where
  | text (value : String)
  | identity (gatewayId : BitVec 128)
  deriving DecidableEq, Repr

/-- AES-256-GCM on 32-byte plaintexts and SHA-256, idealised: a blob opens under the key that sealed it and no
other, and digests do not collide. -/
structure IdealCrypto (Blob : Type) where
  encrypt : Bytes32 → BitVec 96 → Aad → Bytes32 → Blob
  decrypt : Bytes32 → Aad → Blob → Option Bytes32
  sha256 : Bytes32 → Bytes32
  decrypt_encrypt : ∀ key nonce aad plain, decrypt key aad (encrypt key nonce aad plain) = some plain
  decrypt_other : ∀ key key' nonce aad plain, key' ≠ key → decrypt key' aad (encrypt key nonce aad plain) = none
  sha256_injective : Function.Injective sha256

attribute [simp] IdealCrypto.decrypt_encrypt

-- Blobs that carry their key, nonce, associated data and plaintext in the clear.
structure SymbolicBlob where
  key : Bytes32
  nonce : BitVec 96
  aad : Aad
  plain : Bytes32

def symbolicCrypto : IdealCrypto SymbolicBlob where
  encrypt key nonce aad plain := ⟨key, nonce, aad, plain⟩
  decrypt key aad blob := if blob.key = key ∧ blob.aad = aad then some blob.plain else none
  sha256 := id
  decrypt_encrypt := by simp
  decrypt_other := by
    intro key key' nonce aad plain different
    simp [different.symm]
  sha256_injective := Function.injective_id

/-! ## Blob columns -/

-- A blob column holds a 32-byte legacy plaintext, a 60-byte encryption or something of another length.
inductive Stored (Blob : Type) where
  | plain (psk : Bytes32)
  | sealed (blob : Blob)
  | malformed (len : { n : Nat // n ≠ 32 ∧ n ≠ 60 })

variable {Blob : Type}

def Stored.length : Stored Blob → Nat
  | .plain _ => 32
  | .sealed _ => 60
  | .malformed len => len

def encryptedPskLen : Nat := 60

variable (c : IdealCrypto Blob)

def decryptBlob (aad : Aad) (wrongLength : Nat → String) (failed : String) (key : Bytes32)
    (blob : Stored Blob) : Except StorageError Bytes32 :=
  match blob with
  | .sealed sealed =>
    match c.decrypt key aad sealed with
    | some plain => .ok plain
    | none => .error (.internal failed)
  | other => .error (.internal (wrongLength other.length))

variable (masterKey : Bytes32)

def encryptPsk (nonce : BitVec 96) (nodeId : String) (psk : Bytes32) : Stored Blob :=
  .sealed (c.encrypt masterKey nonce (.text nodeId) psk)

def decryptPsk (nodeId : String) (blob : Stored Blob) : Except StorageError Bytes32 :=
  decryptBlob c (.text nodeId) (fun len => s!"encrypted psk blob has wrong length: expected {encryptedPskLen}, got {len}")
    "psk decryption failed — wrong master key or data corruption" masterKey blob

def encryptPhonePsk (nonce : BitVec 96) (phoneId : Nat) (psk : Bytes32) : Stored Blob :=
  .sealed (c.encrypt masterKey nonce (.text (toString phoneId)) psk)

def decryptPhonePsk (phoneId : Nat) (blob : Stored Blob) : Except StorageError Bytes32 :=
  decryptBlob c (.text (toString phoneId))
    (fun len => s!"encrypted phone psk blob has wrong length: expected {encryptedPskLen}, got {len}")
    "phone psk decryption failed — wrong master key or data corruption" masterKey blob

def encryptSeed (nonce : BitVec 96) (seed : Bytes32) (gatewayId : BitVec 128) : Stored Blob :=
  .sealed (c.encrypt masterKey nonce (.identity gatewayId) seed)

def decryptSeed (blob : Stored Blob) (gatewayId : BitVec 128) : Except StorageError Bytes32 :=
  decryptBlob c (.identity gatewayId)
    (fun len => s!"encrypted seed blob has wrong length: expected {encryptedPskLen}, got {len}")
    "seed decryption failed — wrong master key or data corruption" masterKey blob

def pendingRotationAad : Aad := .text "sonde-pending-rotation"

def encryptPendingNewKey (nonce : BitVec 96) (newKey : Bytes32) : Stored Blob :=
  .sealed (c.encrypt masterKey nonce pendingRotationAad newKey)

def decryptPendingNewKey (currentKey : Bytes32) (blob : Stored Blob) : Except StorageError Bytes32 :=
  decryptBlob c pendingRotationAad
    (fun len => s!"new_master_key_enc has wrong length: {len} (expected {encryptedPskLen})")
    "cannot decrypt new_master_key_enc — wrong key or data corruption" currentKey blob

section
variable (c : IdealCrypto Blob) (key : Bytes32) (nonce : BitVec 96)

@[simp] theorem decryptPsk_encryptPsk (nodeId : String) (psk : Bytes32) :
    decryptPsk c key nodeId (encryptPsk c key nonce nodeId psk) = .ok psk := by
  simp [decryptPsk, encryptPsk, decryptBlob]

@[simp] theorem decryptPhonePsk_encryptPhonePsk (phoneId : Nat)
    (psk : Bytes32) : decryptPhonePsk c key phoneId (encryptPhonePsk c key nonce phoneId psk) = .ok psk := by
  simp [decryptPhonePsk, encryptPhonePsk, decryptBlob]

@[simp] theorem decryptSeed_encryptSeed (seed : Bytes32)
    (gatewayId : BitVec 128) : decryptSeed c key (encryptSeed c key nonce seed gatewayId) gatewayId = .ok seed := by
  simp [decryptSeed, encryptSeed, decryptBlob]

@[simp] theorem decryptPendingNewKey_encryptPendingNewKey (newKey : Bytes32) :
    decryptPendingNewKey c key (encryptPendingNewKey c key nonce newKey) = .ok newKey := by
  simp [decryptPendingNewKey, encryptPendingNewKey, decryptBlob]

end

end Sonde.Gateway
