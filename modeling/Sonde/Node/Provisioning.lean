import Sonde.Lib.Power
import Sonde.Node.Radio
import Sonde.Protocol.BoardLayout

/-!
# Provisioning over BLE

`handle_node_provision` makes its writes one `PlatformStorage` call at a time. A call that fails leaves the stored value,
and the power may go before any of them: what the next boot finds is the storage as it then was.
-/

namespace Sonde.Node
open Lib Protocol Power Program Board

inductive ProvisionedBoardLayout where
  | absent
  | provided (layout : Layout)

structure NodeProvision where
  keyHint : BitVec 16
  psk : Bytes32
  rfChannel : Nat
  encryptedPayload : Bytes
  boardLayout : ProvisionedBoardLayout

def nodeProvisionMinLen : Nat := 37
def peerPayloadMaxLen : Nat := 202

def parseNodeProvision (items : Cbor.ItemReader) (body : Bytes) : Except String NodeProvision :=
  if body.length < nodeProvisionMinLen then .error "body too short"
  else
    let keyHint := BitVec.ofNat 16 (ofBigEndian (body.take 2))
    let psk := BitVec.ofNat 256 (ofBigEndian ((body.drop 2).take 32))
    let rfChannel := (body.getD 34 0).toNat
    if ¬(1 ≤ rfChannel ∧ rfChannel ≤ 13) then .error "rf_channel out of range (must be 1–13)"
    else
      let payloadLen := ofBigEndian ((body.drop 35).take 2)
      if payloadLen > peerPayloadMaxLen then .error "encrypted_payload too large"
      else
        let expectedLen := nodeProvisionMinLen + payloadLen
        if body.length < expectedLen then .error "encrypted_payload truncated"
        else
          let encryptedPayload := (body.drop 37).take payloadLen
          if body.length > expectedLen then
            match decodeBoardLayoutCbor items (body.drop expectedLen) with
            | .ok layout => .ok ⟨keyHint, psk, rfChannel, encryptedPayload, .provided layout⟩
            | .error _ => .error "board_layout CBOR decode failed"
          else .ok ⟨keyHint, psk, rfChannel, encryptedPayload, .absent⟩

structure PairingStore where
  key : Option NodeIdentity
  peerPayload : Option Bytes
  regComplete : Bool
  channel : Option Nat
  boardLayout : Option Layout

namespace PairingStore

def eraseKey (store : PairingStore) : PairingStore := { store with key := none }

def erasePeerPayload (store : PairingStore) : PairingStore := { store with peerPayload := none }

def eraseChannel (store : PairingStore) : PairingStore := { store with channel := none }

def writePeerPayload (payload : Bytes) (store : PairingStore) : PairingStore := { store with peerPayload := some payload }

def writeRegComplete (complete : Bool) (store : PairingStore) : PairingStore := { store with regComplete := complete }

def writeChannel (channel : Nat) (store : PairingStore) : PairingStore := { store with channel := some channel }

def writeBoardLayout (layout : Layout) (store : PairingStore) : PairingStore := { store with boardLayout := some layout }

end PairingStore

abbrev Provisioning := Program (Writing PairingStore) Unit

-- "already paired" comes before anything is written.
def writeKey (power : Power) (identity : NodeIdentity) : Provisioning Bool := do
  if ← read (·.store.key.isSome) then return false
  else power.write fun store => { store with key := some identity }

def nodeAckSuccess : BitVec 8 := 0x00
def nodeAckStorageError : BitVec 8 := 0x02

open PairingStore

def restoreChannel : Option Nat → PairingStore → PairingStore
  | some previousChannel => writeChannel previousChannel
  | none => eraseChannel

def undoLayout (boardLayout : ProvisionedBoardLayout) (previousLayout : Option Layout)
    (previousChannel : Option Nat) : List (PairingStore → PairingStore) :=
  (match boardLayout, previousLayout with
    | .provided _, some previousLayout => [writeBoardLayout previousLayout]
    | _, _ => []) ++
  [restoreChannel previousChannel, eraseKey, erasePeerPayload]

def layoutToWrite : ProvisionedBoardLayout → Option Layout → Option Layout
  | .provided layout, _ => some layout
  | .absent, none => some Layout.legacyCompat
  | .absent, some _ => none

variable (power : Power) (provision : NodeProvision)

-- From here on: `handle_node_provision` from each of its writes to its end.
def storeBoardLayout (previousChannel : Option Nat) : Provisioning (BitVec 8) := do
  let previousLayout ← read (·.store.boardLayout)
  match layoutToWrite provision.boardLayout previousLayout with
  | none => return nodeAckSuccess
  | some layout => do
    if ← power.write (writeBoardLayout layout) then return nodeAckSuccess
    else do
      power.writeAll (undoLayout provision.boardLayout previousLayout previousChannel)
      return nodeAckStorageError

def storeChannel : Provisioning (BitVec 8) := do
  let previousChannel ← read (·.store.channel)
  if ← power.write (writeChannel provision.rfChannel) then storeBoardLayout power provision previousChannel
  else do
    power.writeAll [eraseKey, erasePeerPayload]
    return nodeAckStorageError

def storeRegComplete : Provisioning (BitVec 8) := do
  if ← power.write (writeRegComplete false) then storeChannel power provision
  else do
    power.writeAll [eraseKey, erasePeerPayload]
    return nodeAckStorageError

def storePeerPayload : Provisioning (BitVec 8) := do
  if ← power.write (writePeerPayload provision.encryptedPayload) then storeRegComplete power provision
  else do
    power.writeAll [eraseKey]
    return nodeAckStorageError

def NodeProvision.identity : NodeIdentity := ⟨provision.keyHint, provision.psk⟩

def handleNodeProvision : Provisioning (BitVec 8) := do
  power.writeAll [eraseKey]
  if ← writeKey power provision.identity then storePeerPayload power provision
  else return nodeAckStorageError

def provisioned (store : PairingStore) : PairingStore :=
  (handleNodeProvision power provision ⟨store, 0⟩).2.store

def keyed (store : PairingStore) : PairingStore := { store with key := some provision.identity }

theorem provisioned_eq {store : PairingStore} (unpaired : store.key = none) :
    provisioned power provision store =
      if power.works 1 then (storePeerPayload power provision ⟨keyed provision store, 2⟩).2.store else store := by
  have erased : eraseKey store = store := by
    cases store
    cases unpaired
    rfl
  have write : writeKey power provision.identity ⟨store, 1⟩ =
      power.write (fun store => { store with key := some provision.identity }) ⟨store, 1⟩ := by
    rw [writeKey, bind_run, read_run]
    rw [unpaired]
    rfl
  cases reached : power.reaches 0 with
  | false =>
    have lost : power.works 1 = false := not_works_of_le (Nat.zero_le 1) reached
    simp [provisioned, handleNodeProvision, writeAll, bind_run, write_lost reached, lost]
  | true =>
    have cleared : power.writeAll [eraseKey] ⟨store, 0⟩ = (.ok (), ⟨store, 1⟩) := by
      rw [writeAll, bind_run]
      cases works : power.works 0 with
      | true => rw [write_works works, erased]; rfl
      | false => rw [write_fails reached works]; rfl
    rw [provisioned, handleNodeProvision, bind_run, cleared]
    dsimp only
    rw [bind_run, write]
    cases works : power.works 1 with
    | true => rw [write_works works]; rfl
    | false =>
      cases live : power.reaches 1 with
      | false => rw [write_lost live]; rfl
      | true => rw [write_fails live works]; rfl

theorem storeBoardLayout_leaves (previousChannel : Option Nat)
    (store : PairingStore) (n : Nat) : (storeBoardLayout power provision previousChannel ⟨store, n⟩).2.store =
      match layoutToWrite provision.boardLayout store.boardLayout with
      | none => store
      | some layout =>
        if power.works n then writeBoardLayout layout store
        else power.leaves store (n + 1) (undoLayout provision.boardLayout store.boardLayout previousChannel) := by
  rw [storeBoardLayout, bind_run, read_run]
  dsimp only
  cases layoutToWrite provision.boardLayout store.boardLayout with
  | none => rfl
  | some layout => exact write_or_tidy

variable (store : PairingStore)

theorem storeChannel_leaves (n : Nat) :
    (storeChannel power provision ⟨store, n⟩).2.store =
      if power.works n then
        (storeBoardLayout power provision store.channel ⟨writeChannel provision.rfChannel store, n + 1⟩).2.store
      else power.leaves store (n + 1) [eraseKey, erasePeerPayload] := by
  exact write_or_tidy

theorem storeRegComplete_leaves (n : Nat) :
    (storeRegComplete power provision ⟨store, n⟩).2.store =
      if power.works n then (storeChannel power provision ⟨writeRegComplete false store, n + 1⟩).2.store
      else power.leaves store (n + 1) [eraseKey, erasePeerPayload] :=
  write_or_tidy

theorem storePeerPayload_leaves (n : Nat) :
    (storePeerPayload power provision ⟨store, n⟩).2.store =
      if power.works n then
        (storeRegComplete power provision ⟨writePeerPayload provision.encryptedPayload store, n + 1⟩).2.store
      else power.leaves store (n + 1) [eraseKey] :=
  write_or_tidy

/-! ## Atomicity -/

/-- The layout of a node provisioned by the message: a message without one keeps the layout that is there. -/
def NodeProvision.layout (provision : NodeProvision) (previousLayout : Option Layout) : Option Layout :=
  (layoutToWrite provision.boardLayout previousLayout).or previousLayout

def NodeProvision.paired (provision : NodeProvision) (before : PairingStore) : PairingStore where
  key := some provision.identity
  peerPayload := some provision.encryptedPayload
  regComplete := false
  channel := some provision.rfChannel
  boardLayout := provision.layout before.boardLayout

def Atomic (provision : NodeProvision) (before after : PairingStore) : Prop :=
  after.key = none ∨ after = provision.paired before

section
variable (power : Power) (provision : NodeProvision) (store : PairingStore)

-- The storage already held what the message says, from the named field on.
def HoldsLayout : Prop := store.boardLayout = provision.layout store.boardLayout

def HoldsChannel : Prop := store.channel = some provision.rfChannel ∧ HoldsLayout provision store

def HoldsRegComplete : Prop := store.regComplete = false ∧ HoldsChannel provision store

def HoldsPeerPayload : Prop := store.peerPayload = some provision.encryptedPayload ∧ HoldsRegComplete provision store

def layoutUndos : Nat :=
  match provision.boardLayout, store.boardLayout with
  | .provided _, some _ => 1
  | _, _ => 0

/-- The write that did not happen is followed by an `erase_key` that does, or it and every later one would have changed
nothing. -/
def Recoverable : Prop :=
  if ¬power.works 1 then True
  else if ¬power.works 2 then power.works 3 ∨ HoldsPeerPayload provision store
  else if ¬power.works 3 then power.works 4 ∨ ¬power.works 5 ∧ HoldsRegComplete provision store
  else if ¬power.works 4 then power.works 5 ∨ ¬power.works 6 ∧ HoldsChannel provision store
  else if layoutToWrite provision.boardLayout store.boardLayout = none ∨ power.works 5 then True
  else
    let undos := layoutUndos provision store
    power.works (7 + undos) ∨ ¬power.works (8 + undos) ∧
      (power.works (6 + undos) → store.channel = some provision.rfChannel) ∧ HoldsLayout provision store

end

variable {power : Power} {provision : NodeProvision} {before store : PairingStore}

theorem atomic_of_paired (keyed : store.key ≠ none) : Atomic provision before store ↔ store = provision.paired before :=
  or_iff_right keyed

theorem atomic_erasing_key (keyed : store.key ≠ none) (n : Nat) :
    Atomic provision before (power.leaves store n [eraseKey]) ↔ power.works n ∨ store = provision.paired before := by
  cases works : power.works n with
  | true => simp [leaves, works, Atomic, eraseKey]
  | false => simpa [leaves, works] using atomic_of_paired keyed

theorem atomic_erasing_key_and_payload (keyed : store.key ≠ none) (n : Nat) :
    Atomic provision before (power.leaves store n [eraseKey, erasePeerPayload]) ↔
      power.works n ∨ ¬power.works (n + 1) ∧ store = provision.paired before := by
  cases works : power.works n with
  | true =>
    refine iff_of_true (.inl ?_) (.inl rfl)
    rw [leaves, if_pos works, leaves]
    split
    · rfl
    · rfl
  | false =>
    cases later : power.works (n + 1) with
    | true => simp [leaves, works, later, Atomic, erasePeerPayload, keyed, NodeProvision.paired]
    | false => simpa [leaves, works, later] using atomic_of_paired keyed

theorem restoreChannel_eq (previousChannel : Option Nat) :
    restoreChannel previousChannel store = { store with channel := previousChannel } := by
  cases previousChannel <;> rfl

-- The layout that is put back is the one that is there: the write that failed left it.
theorem leaves_undoLayout (layoutKept : store.boardLayout = before.boardLayout) (n : Nat) :
    power.leaves store n (undoLayout provision.boardLayout before.boardLayout before.channel) =
      power.leaves
        (if power.works (n + layoutUndos provision before) then { store with channel := before.channel } else store)
        (n + 1 + layoutUndos provision before) [eraseKey, erasePeerPayload] := by
  unfold undoLayout layoutUndos
  cases provision.boardLayout with
  | absent =>
    change power.leaves store n [restoreChannel before.channel, eraseKey, erasePeerPayload] = _
    rw [leaves, restoreChannel_eq]
    rfl
  | provided layout =>
    cases previous : before.boardLayout with
    | none =>
      change power.leaves store n [restoreChannel before.channel, eraseKey, erasePeerPayload] = _
      rw [leaves, restoreChannel_eq]
      rfl
    | some previousLayout =>
      have same : writeBoardLayout previousLayout store = store := by
        rw [writeBoardLayout, ← previous, ← layoutKept]
      change power.leaves store n
        [writeBoardLayout previousLayout, restoreChannel before.channel, eraseKey, erasePeerPayload] = _
      rw [leaves, same, ite_self, leaves, restoreChannel_eq]

/-! ### Which stores are the message's -/

theorem keyed_eq_paired : keyed provision before = provision.paired before ↔ HoldsPeerPayload provision before := by
  simp only [keyed, NodeProvision.paired, PairingStore.mk.injEq, true_and, HoldsPeerPayload, HoldsRegComplete,
    HoldsChannel, HoldsLayout]

def withPayload (provision : NodeProvision) (before : PairingStore) : PairingStore :=
  writePeerPayload provision.encryptedPayload (keyed provision before)

theorem withPayload_eq_paired :
    withPayload provision before = provision.paired before ↔ HoldsRegComplete provision before := by
  simp only [withPayload, writePeerPayload, keyed, NodeProvision.paired, PairingStore.mk.injEq, true_and,
    HoldsRegComplete, HoldsChannel, HoldsLayout]

def unregistered (provision : NodeProvision) (before : PairingStore) : PairingStore :=
  writeRegComplete false (withPayload provision before)

theorem unregistered_eq_paired :
    unregistered provision before = provision.paired before ↔ HoldsChannel provision before := by
  simp only [unregistered, writeRegComplete, withPayload, writePeerPayload, keyed, NodeProvision.paired,
    PairingStore.mk.injEq, true_and, HoldsChannel, HoldsLayout]

def tuned (provision : NodeProvision) (before : PairingStore) : PairingStore :=
  writeChannel provision.rfChannel (unregistered provision before)

theorem tuned_eq_paired : tuned provision before = provision.paired before ↔ HoldsLayout provision before := by
  simp only [tuned, writeChannel, unregistered, writeRegComplete, withPayload, writePeerPayload, keyed,
    NodeProvision.paired, PairingStore.mk.injEq, true_and, HoldsLayout]

theorem untuned_eq_paired :
    { tuned provision before with channel := before.channel } = provision.paired before ↔ HoldsChannel provision before := by
  simp only [tuned, writeChannel, unregistered, writeRegComplete, withPayload, writePeerPayload, keyed,
    NodeProvision.paired, PairingStore.mk.injEq, true_and, HoldsChannel, HoldsLayout]

theorem atomic_storeBoardLayout :
    Atomic provision before (storeBoardLayout power provision before.channel ⟨tuned provision before, 5⟩).2.store ↔
      if layoutToWrite provision.boardLayout before.boardLayout = none ∨ power.works 5 then True
      else
        power.works (7 + layoutUndos provision before) ∨ ¬power.works (8 + layoutUndos provision before) ∧
          (power.works (6 + layoutUndos provision before) → before.channel = some provision.rfChannel) ∧
          HoldsLayout provision before := by
  have paired : (tuned provision before).key ≠ none := nofun
  have kept : (tuned provision before).boardLayout = before.boardLayout := rfl
  rw [storeBoardLayout_leaves, kept]
  cases toWrite : layoutToWrite provision.boardLayout before.boardLayout with
  | none =>
    have held : HoldsLayout provision before := by
      rw [HoldsLayout, NodeProvision.layout, toWrite, Option.none_or]
    exact iff_of_true (.inr (tuned_eq_paired.mpr held)) (by simp)
  | some layout =>
    cases works : power.works 5 with
    | true =>
      have written : writeBoardLayout layout (tuned provision before) = provision.paired before := by
        rw [NodeProvision.paired, NodeProvision.layout, toWrite]
        rfl
      exact iff_of_true (.inr written) (by simp)
    | false =>
      simp only [Bool.false_eq_true, if_false, reduceCtorEq, or_false]
      rw [leaves_undoLayout kept, atomic_erasing_key_and_payload (by split <;> exact paired)]
      rw [show 5 + 1 + 1 + layoutUndos provision before + 1 = 8 + layoutUndos provision before by omega]
      cases restored : power.works (6 + layoutUndos provision before) with
      | true => simp [untuned_eq_paired, HoldsChannel]
      | false => simp [tuned_eq_paired]

theorem provisioning_atomic_iff (power : Power) (provision : NodeProvision) (before : PairingStore)
    (unpaired : before.key = none) :
    Atomic provision before (provisioned power provision before) ↔ Recoverable power provision before := by
  rw [provisioned_eq power provision unpaired, Recoverable]
  by_cases key : power.works 1 = true
  swap
  · rw [if_neg key, if_pos key]
    exact iff_of_true (.inl unpaired) trivial
  rw [if_pos key, if_neg (not_not.mpr key), storePeerPayload_leaves]
  by_cases payload : power.works 2 = true
  swap
  · rw [if_neg payload, if_pos payload, atomic_erasing_key (by nofun), keyed_eq_paired]
  rw [if_pos payload, if_neg (not_not.mpr payload), storeRegComplete_leaves]
  by_cases registration : power.works 3 = true
  swap
  · rw [if_neg registration, if_pos registration, atomic_erasing_key_and_payload (by nofun)]
    exact or_congr_right (and_congr_right' withPayload_eq_paired)
  rw [if_pos registration, if_neg (not_not.mpr registration), storeChannel_leaves]
  by_cases channel : power.works 4 = true
  swap
  · rw [if_neg channel, if_pos channel, atomic_erasing_key_and_payload (by nofun)]
    exact or_congr_right (and_congr_right' unregistered_eq_paired)
  rw [if_pos channel, if_neg (not_not.mpr channel)]
  exact atomic_storeBoardLayout

/-! ## Answering over BLE -/

def bleMsgNodeProvision : BitVec 8 := 0x01
def bleMsgNodeAck : BitVec 8 := 0x81

def encodeNodeAck (status : BitVec 8) : Bytes := bleMsgNodeAck :: toBigEndian 2 1 ++ [status]

/-- The node's turn for one GATT write: its indication, if any, and the storage it leaves. The test commands are not part of
provisioning. -/
def handleBleWrite (items : Cbor.ItemReader) (power : Power) (data : Bytes) (store : PairingStore) :
    Option Bytes × PairingStore :=
  match parseBleEnvelope data with
  | none => (none, store)
  | some (msgType, body) =>
    if msgType = bleMsgNodeProvision then
      match parseNodeProvision items body with
      | .error _ => (none, store)
      | .ok provision =>
        let (result, after) := handleNodeProvision power provision ⟨store, 0⟩
        (result.toOption.map encodeNodeAck, after.store)
    else (none, store)

/-- What the phone may rely on after NODE_ACK(0x00). -/
structure Stored (provision : NodeProvision) (store : PairingStore) : Prop where
  key : store.key = some provision.identity
  peerPayload : store.peerPayload = some provision.encryptedPayload
  regComplete : store.regComplete = false
  channel : store.channel = some provision.rfChannel

section
variable {pre : Writing PairingStore → Prop} {P Q : PairingStore → Prop}

abbrev Succeeds (pre : Writing PairingStore → Prop) (provision : NodeProvision) (m : Provisioning (BitVec 8)) : Prop :=
  Meets pre m (fun status after => status = nodeAckSuccess → Stored provision after.store) fun _ => True

theorem tidied_succeeds (tidy : List (PairingStore → PairingStore)) :
    Succeeds pre provision (do power.writeAll tidy; return nodeAckStorageError) := by
  refine .bind .trivially fun _ => .pure fun _ _ failed => ?_
  cases failed

theorem write_succeeds {edit : PairingStore → PairingStore} {go other : Provisioning (BitVec 8)}
    (edits : ∀ store, P store → Q (edit store)) (goes : Succeeds (fun after => Q after.store) provision go)
    (fails : Succeeds (fun _ => True) provision other) :
    Succeeds (fun before => P before.store) provision (do if ← power.write edit then go else other) := by
  refine Meets.bind (write_edits edits) fun written => Meets.ite (fun success => ?_) fun _ => ?_
  · exact Meets.prior goes (fun _ holds => holds success)
  · exact Meets.prior fails (fun _ _ => trivial)

theorem storeBoardLayout_succeeds (previousChannel : Option Nat) :
    Succeeds (fun before => Stored provision before.store) provision (storeBoardLayout power provision previousChannel) := by
  refine .bind .read fun previousLayout => ?_
  cases layoutToWrite provision.boardLayout previousLayout with
  | none => exact .pure fun _ stored _ => stored.1
  | some layout =>
    exact .prior (write_succeeds
      (fun _ stored => ⟨stored.key, stored.peerPayload, stored.regComplete, stored.channel⟩)
      (.pure fun _ stored _ => stored) (tidied_succeeds _)) (fun _ stored => stored.1)

variable (provision) in
def Carried (store : PairingStore) : Prop :=
  store.key = some provision.identity ∧ store.peerPayload = some provision.encryptedPayload

theorem storeChannel_succeeds : Succeeds (fun before => Carried provision before.store ∧ before.store.regComplete = false)
      provision (storeChannel power provision) := by
  refine .bind .read fun previousChannel => ?_
  refine .prior (write_succeeds (P := fun store => Carried provision store ∧ store.regComplete = false)
    (fun _ stored => ⟨stored.1.1, stored.1.2, stored.2, rfl⟩) (storeBoardLayout_succeeds previousChannel) (tidied_succeeds _))
    (fun _ stored => stored.1)

theorem storeRegComplete_succeeds :
    Succeeds (fun before => Carried provision before.store) provision (storeRegComplete power provision) :=
  write_succeeds (P := Carried provision) (Q := fun store => Carried provision store ∧ store.regComplete = false)
    (fun _ stored => ⟨stored, rfl⟩) storeChannel_succeeds (tidied_succeeds _)

theorem storePeerPayload_succeeds :
    Succeeds (fun before => before.store.key = some provision.identity) provision (storePeerPayload power provision) :=
  write_succeeds (P := fun store => store.key = some provision.identity)
    (Q := Carried provision) (fun _ key => ⟨key, rfl⟩) storeRegComplete_succeeds (tidied_succeeds _)

theorem handleNodeProvision_succeeds : Succeeds (fun _ => True) provision (handleNodeProvision power provision) := by
  refine .bind .trivially fun _ => ?_
  have keyed : Meets (fun _ => True) (writeKey power provision.identity)
      (fun written after => written = true → after.store.key = some provision.identity) fun _ => True := by
    refine .bind .trivially fun paired =>
      .ite (fun _ => .pure fun _ _ written => ?_) fun _ =>
        write_edits (P := fun _ => True) (Q := fun store : PairingStore => store.key = some provision.identity) fun _ _ => rfl
    cases written
  refine .bind keyed fun written => .ite (fun success => ?_) fun _ => .pure fun _ _ failed => ?_
  · exact .prior storePeerPayload_succeeds (fun _ key => key success)
  · cases failed

end

def smallBody : Bytes := [0, 5] ++ List.replicate 31 0 ++ [7, 6, 0, 1, 0xaa]

def smallProvision : NodeProvision := ⟨5, 7, 6, [0xaa], .absent⟩

def blankStore : PairingStore := ⟨none, none, false, none, none⟩

theorem refused_channel_rolled_back :
    Atomic smallProvision blankStore (provisioned ⟨fun n => n = 4, none⟩ smallProvision blankStore) :=
  (provisioning_atomic_iff _ _ _ rfl).mpr (.inl rfl)

theorem power_lost_after_key : parseNodeProvision Cbor.ItemReader.definite smallBody = .ok smallProvision ∧
      ¬Atomic smallProvision blankStore (provisioned ⟨fun _ => false, some 2⟩ smallProvision blankStore) := by
  refine ⟨rfl, ?_⟩
  rintro (unpaired | paired)
  · cases unpaired
  · cases paired

end Sonde.Node
