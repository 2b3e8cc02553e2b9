import Sonde.Gateway.Storage

namespace Sonde.Gateway
open Lib Function

/-! ## What the callers wrote -/

structure Ledger where
  nodes : String → Option Bytes32
  phones : Nat → Option Bytes32

variable {Blob : Type}

def NodeReads (c : IdealCrypto Blob) (key : Bytes32) (ledger : Ledger) (nodeId : String) (row : NodeRow Blob) : Prop :=
  ∃ psk, ledger.nodes nodeId = some psk ∧ decryptPsk c key nodeId row.psk = .ok psk

def PhoneReads (c : IdealCrypto Blob) (key : Bytes32) (ledger : Ledger) (phoneId : Nat) (row : PhoneRow Blob) : Prop :=
  ∃ psk, ledger.phones phoneId = some psk ∧ decryptPhonePsk c key phoneId row.psk = .ok psk

inductive Write where
  | upsertNode (nonce : BitVec 96) (record : NodeRecord)
  | insertNodeIfNotExists (nonce : BitVec 96) (record : NodeRecord)
  | storePhonePsk (nonce : BitVec 96) (record : PhonePskRecord)
  | replaceState (nonces : String → BitVec 96) (nodes : List NodeRecord) (programs : List ProgramRecord)

namespace Write

def run (c : IdealCrypto Blob) (w : Write) (s : Store Blob) (ledger : Ledger) : Store Blob × Ledger :=
  match w with
  | .upsertNode nonce record =>
    match Gateway.upsertNode c nonce record s with
    | .ok s' => (s', { ledger with nodes := update ledger.nodes record.nodeId (some record.psk) })
    | .error _ => (s, ledger)
  | .insertNodeIfNotExists nonce record =>
    match Gateway.insertNodeIfNotExists c nonce record s with
    | .ok (true, s') => (s', { ledger with nodes := update ledger.nodes record.nodeId (some record.psk) })
    | .ok (false, s') => (s', ledger)
    | .error _ => (s, ledger)
  | .storePhonePsk nonce record =>
    match Gateway.storePhonePsk c nonce record s with
    | .ok (phoneId, s') => (s', { ledger with phones := update ledger.phones phoneId (some record.psk) })
    | .error _ => (s, ledger)
  | .replaceState nonces nodes programs =>
    match Gateway.replaceState c nonces nodes programs s with
    | .ok s' => (s', { ledger with nodes := fun nodeId => (nodes.find? (·.nodeId = nodeId)).map (·.psk) })
    | .error _ => (s, ledger)

def TouchesNode (w : Write) (s : Store Blob) (nodeId : String) : Prop :=
  match w with
  | .upsertNode _ record => nodeId = record.nodeId
  | .insertNodeIfNotExists _ record => nodeId = record.nodeId ∧ nodeId ∉ s.db.nodes
  | .storePhonePsk _ _ => False
  | .replaceState _ nodes _ => ∃ record ∈ nodes, record.nodeId = nodeId

def TouchesPhone (w : Write) (s : Store Blob) (phoneId : Nat) : Prop :=
  match w with
  | .storePhonePsk _ _ => phoneId = nextPhoneId s.db
  | _ => False

end Write

def FreshNode (c : IdealCrypto Blob) (s : Store Blob) (ledger : Ledger) (nodeId : String) (row : NodeRow Blob) : Prop :=
  (∃ nonce psk, row.psk = encryptPsk c s.masterKey nonce nodeId psk ∧ ledger.nodes nodeId = some psk) ∧
  s.db.masterKeyId = row.masterKeyId ∧ s.db.masterKeyEpoch = some row.masterKeyEpoch

def FreshPhone (c : IdealCrypto Blob) (s : Store Blob) (ledger : Ledger) (phoneId : Nat) (row : PhoneRow Blob) : Prop :=
  (∃ nonce psk, row.psk = encryptPhonePsk c s.masterKey nonce phoneId psk ∧ ledger.phones phoneId = some psk) ∧
  s.db.masterKeyId = row.masterKeyId ∧ s.db.masterKeyEpoch = some row.masterKeyEpoch

variable {c : IdealCrypto Blob} {s : Store Blob} {ledger : Ledger}

theorem nodeRow_fresh (nonce : BitVec 96) {id : Bytes32} {epoch : Nat} {record : NodeRecord}
    (metadata : readCurrentKeyMetadata s.db = .ok (id, epoch)) (last : ledger.nodes record.nodeId = some record.psk) :
    FreshNode c s ledger record.nodeId (nodeRow c s.masterKey nonce id epoch record) := by
  obtain ⟨sameId, sameEpoch, -, -⟩ := readCurrentKeyMetadata_ok.mp metadata
  exact ⟨⟨nonce, record.psk, rfl, last⟩, sameId, sameEpoch⟩

namespace Write
variable {w : Write}

inductive Effect (c : IdealCrypto Blob) (w : Write) (s : Store Blob) (ledger : Ledger) : Store Blob × Ledger → Prop
  | none : Effect c w s ledger (s, ledger)
  | node {id : Bytes32} {epoch : Nat} (nonce : BitVec 96) (record : NodeRecord)
      (metadata : readCurrentKeyMetadata s.db = .ok (id, epoch)) (touched : w.TouchesNode s record.nodeId) :
      Effect c w s ledger ({ s with db := { s.db with
          nodes := s.db.nodes.insert record.nodeId (nodeRow c s.masterKey nonce id epoch record) } },
        { ledger with nodes := update ledger.nodes record.nodeId (some record.psk) })
  | phone {row : PhoneRow Blob} {psk : Bytes32} (touched : w.TouchesPhone s (nextPhoneId s.db))
      (fresh : ∀ ledger : Ledger, ledger.phones (nextPhoneId s.db) = some psk →
        FreshPhone c s ledger (nextPhoneId s.db) row) :
      Effect c w s ledger ({ s with db := { s.db with
          phonePsks := s.db.phonePsks.insert (nextPhoneId s.db) row, phoneSequence := nextPhoneId s.db } },
        { ledger with phones := update ledger.phones (nextPhoneId s.db) (some psk) })
  | state {id : Bytes32} {epoch : Nat} {nonces : String → BitVec 96} {nodes : List NodeRecord}
      {newNodes : Table String (NodeRow Blob)} {newPrograms : Table Bytes ProgramRecord}
      (metadata : readCurrentKeyMetadata s.db = .ok (id, epoch)) (touched : ∀ record ∈ nodes, w.TouchesNode s record.nodeId)
      (inserted : nodes.foldlM (insertNode c s.masterKey nonces id epoch) ∅ = .ok newNodes) :
      Effect c w s ledger ({ s with db := { s.db with nodes := newNodes, programs := newPrograms } },
        { ledger with nodes := fun nodeId => (nodes.find? (·.nodeId = nodeId)).map (·.psk) })

theorem run_effect (c : IdealCrypto Blob) (w : Write) (s : Store Blob) (ledger : Ledger) :
    Effect c w s ledger (w.run c s ledger) := by
  cases w with
  | upsertNode nonce record =>
    simp only [run]
    split
    · rename_i result
      obtain ⟨-, id, epoch, metadata, rfl⟩ := upsertNode_ok.mp result
      exact .node nonce record metadata rfl
    · exact .none
  | insertNodeIfNotExists nonce record =>
    simp only [run]
    split
    · rename_i result
      obtain ⟨-, id, epoch, metadata, effect⟩ := insertNodeIfNotExists_ok.mp result
      split at effect <;> obtain ⟨⟨⟩, rfl⟩ := effect
      rename_i absent
      exact .node nonce record metadata ⟨rfl, absent⟩
    · rename_i result
      obtain ⟨-, id, epoch, -, effect⟩ := insertNodeIfNotExists_ok.mp result
      split at effect <;> obtain ⟨⟨⟩, rfl⟩ := effect
      exact .none
    · exact .none
  | storePhonePsk nonce record =>
    simp only [run]
    split
    · rename_i result
      obtain ⟨-, -, -, id, epoch, metadata, rfl, rfl⟩ := storePhonePsk_ok.mp result
      obtain ⟨sameId, sameEpoch, -, -⟩ := readCurrentKeyMetadata_ok.mp metadata
      exact .phone rfl fun _ last => ⟨⟨nonce, record.psk, rfl, last⟩, sameId, sameEpoch⟩
    · exact .none
  | replaceState nonces nodes programs =>
    simp only [run]
    split
    · rename_i result
      obtain ⟨id, epoch, metadata, newPrograms, -, newNodes, inserted, rfl⟩ := replaceState_ok.mp result
      exact .state metadata (fun record member => ⟨record, member, rfl⟩) inserted
    · exact .none

theorem run_frame (c : IdealCrypto Blob) (w : Write) (s : Store Blob) (ledger : Ledger) :
    (w.run c s ledger).1.masterKey = s.masterKey ∧ (w.run c s ledger).1.rotationKeyState = s.rotationKeyState ∧
    (w.run c s ledger).1.db.masterKeyId = s.db.masterKeyId ∧
    (w.run c s ledger).1.db.masterKeyEpoch = s.db.masterKeyEpoch ∧ (w.run c s ledger).1.db.identity = s.db.identity ∧
    (w.run c s ledger).1.db.pendingRotation = s.db.pendingRotation := by
  have effect := run_effect c w s ledger
  generalize w.run c s ledger = after at effect ⊢
  cases effect <;> exact ⟨rfl, rfl, rfl, rfl, rfl, rfl⟩

-- Each row a write leaves behind is an old one, with the key it had, or one the write touched.
theorem run_nodes {nodeId : String} {row : NodeRow Blob}
    (found : (w.run c s ledger).1.db.nodes.lookup nodeId = some row) :
    (s.db.nodes.lookup nodeId = some row ∧ (w.run c s ledger).2.nodes nodeId = ledger.nodes nodeId) ∨
      (w.TouchesNode s nodeId ∧ FreshNode c s (w.run c s ledger).2 nodeId row) := by
  have effect := run_effect c w s ledger
  generalize w.run c s ledger = after at effect found ⊢
  cases effect with
  | none => exact .inl ⟨found, rfl⟩
  | phone touched fresh => exact .inl ⟨found, rfl⟩
  | node nonce record metadata touched =>
    by_cases here : nodeId = record.nodeId
    · subst here
      rw [AList.lookup_insert, Option.some.injEq] at found
      subst found
      exact .inr ⟨touched, nodeRow_fresh nonce metadata (update_self ..)⟩
    · rw [AList.lookup_insert_ne here] at found
      exact .inl ⟨found, update_of_ne here ..⟩
  | state metadata touched inserted =>
    rcases insertNodes_lookup inserted found with old | ⟨-, record, last, rfl⟩
    · simp at old
    · obtain rfl : record.nodeId = nodeId := by simpa using List.find?_some last
      exact .inr ⟨touched record (List.mem_of_find?_eq_some last), nodeRow_fresh _ metadata (by simp [last])⟩

theorem run_phones {phoneId : Nat} {row : PhoneRow Blob}
    (found : (w.run c s ledger).1.db.phonePsks.lookup phoneId = some row) :
    (s.db.phonePsks.lookup phoneId = some row ∧ (w.run c s ledger).2.phones phoneId = ledger.phones phoneId) ∨
      (w.TouchesPhone s phoneId ∧ FreshPhone c s (w.run c s ledger).2 phoneId row) := by
  have effect := run_effect c w s ledger
  generalize w.run c s ledger = after at effect found ⊢
  cases effect with
  | phone touched fresh =>
    by_cases here : phoneId = nextPhoneId s.db
    · subst here
      rw [AList.lookup_insert, Option.some.injEq] at found
      subst found
      exact .inr ⟨touched, fresh _ (update_self ..)⟩
    · rw [AList.lookup_insert_ne here] at found
      exact .inl ⟨found, update_of_ne here ..⟩
  | _ => exact .inl ⟨found, rfl⟩

end Write

end Sonde.Gateway
