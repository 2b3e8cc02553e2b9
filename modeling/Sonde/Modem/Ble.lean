import Sonde.Lib.Bytes

/-!
# The modem's BLE driver

All callbacks of the BLE stack and all calls of the bridge change one `BleState`. A tag is kept with each value that the
driver stores for a connection; with `Unit` the state is the driver's own. The requests to disconnect go to the stack, which
answers with `onDisconnect` when it is done.
-/

namespace Sonde.Modem
open Lib

inductive BleEvent (τ : Type) where
  | recv (tag : τ) (data : Bytes)
  | connected (tag : τ) (peerAddr : Bytes) (mtu : Nat)
  | disconnected (peerAddr : Bytes) (reason : Nat)
  | pairingConfirm (passkey : Nat)
  deriving DecidableEq, Repr

def maxBleEventQueue : Nat := 32

def maxIndicationChunks : Nat := 64

def blePairingTimeoutMs : Nat := 30000

def bleIdleTimeoutMs : Nat := 60000

def bleMtuMin : Nat := 247

structure BleState (τ : Type) where
  events : List (BleEvent τ) := []
  indicationQueue : List Bytes := []
  awaitingConfirm : Bool := false
  advertising : Bool := false
  mtu : Nat := 0
  connHandle : Option Nat := none
  pairingPending : Bool := false
  deferredConnected : Option (τ × Bytes × Nat) := none
  authenticated : Bool := false
  connectionStart : Option Nat := none
  confirmSentAt : Option Nat := none
  timeoutFired : Bool := false
  pairingRejected : Bool := false
  encFallbackErrLogged : Bool := false
  pendingWrite : Option (τ × Bytes) := none
  deriving DecidableEq, Repr

-- What a callback reads of its connection's descriptor.
structure Desc where
  address : Bytes
  connHandle : Nat
  mtu : Nat

variable {τ : Type}

def pushed (events : List (BleEvent τ)) (event : BleEvent τ) : List (BleEvent τ) :=
  if events.length < maxBleEventQueue then events ++ [event] else events

theorem mem_pushed {events : List (BleEvent τ)} {event other : BleEvent τ} (member : other ∈ pushed events event) :
    other ∈ events ∨ other = event := by
  unfold pushed at member
  split at member
  · exact (List.mem_append.mp member).imp_right List.mem_singleton.mp
  · exact .inl member

def BleState.pushEvent (event : BleEvent τ) (s : BleState τ) : BleState τ := { s with events := pushed s.events event }

/-! ## Callbacks of the stack -/

def onConnect (connectedCount : Nat) (desc : Desc) (now : Nat) (s : BleState τ) : BleState τ :=
  if connectedCount > 1 then s
  else { s with advertising := false, mtu := desc.mtu, connHandle := some desc.connHandle, connectionStart := some now }

def BleState.clearConnection (s : BleState τ) : BleState τ :=
  { s with
    mtu := 0
    connHandle := none
    indicationQueue := []
    awaitingConfirm := false
    pairingPending := false
    deferredConnected := none
    authenticated := false
    connectionStart := none
    confirmSentAt := none
    timeoutFired := false
    pairingRejected := false
    encFallbackErrLogged := false
    pendingWrite := none }

def onDisconnect (desc : Desc) (reasonOk : Bool) (s : BleState τ) : BleState τ :=
  s.clearConnection.pushEvent (.disconnected desc.address (if reasonOk then 0x16 else 0x13))

def onConfirmPin (passkey now : Nat) (s : BleState τ) : BleState τ :=
  { s with pairingPending := true, confirmSentAt := some now }.pushEvent (.pairingConfirm passkey)

def completePairingUnderLock (tag : τ) (peerAddr : Bytes) (s : BleState τ) : BleState τ :=
  if s.pairingPending then
    if s.deferredConnected.isNone then { s with deferredConnected := some (tag, peerAddr, s.mtu) } else s
  else if s.authenticated then s
  else
    let s := { s with authenticated := true, connectionStart := none, confirmSentAt := none }
    let s := match s.pendingWrite with
      | some (writer, data) => { s with pendingWrite := none }.pushEvent (.recv writer data)
      | none => s
    s.pushEvent (.connected tag peerAddr s.mtu)

def BleState.Reports (s : BleState τ) (tag : τ) (events : List (BleEvent τ)) : Prop :=
  ∀ event ∈ events, event ∈ s.events ∨ (∃ peerAddr mtu, event = .connected tag peerAddr mtu) ∨
    ∃ writer data, s.pendingWrite = some (writer, data) ∧ event = .recv writer data

theorem completePairing_cases (tag : τ) (peerAddr : Bytes) (s : BleState τ) :
    completePairingUnderLock tag peerAddr s = s ∨
    completePairingUnderLock tag peerAddr s = { s with deferredConnected := some (tag, peerAddr, s.mtu) } ∨
    (s.pairingPending = false ∧ s.authenticated = false ∧ ∃ events, s.Reports tag events ∧
      completePairingUnderLock tag peerAddr s =
        { s with authenticated := true, connectionStart := none, confirmSentAt := none, pendingWrite := none, events }) := by
  unfold completePairingUnderLock
  split_ifs with waits free known
  · exact .inr (.inl rfl)
  · exact .inl rfl
  · exact .inl rfl
  · refine .inr (.inr ⟨by simpa using waits, by simpa using known, ?_⟩)
    cases held : s.pendingWrite with
    | none =>
      refine ⟨pushed s.events (.connected tag peerAddr s.mtu), fun event member => ?_, ?_⟩
      · exact (mem_pushed member).imp_right fun same => .inl ⟨peerAddr, s.mtu, same⟩
      · rfl
    | some write =>
      obtain ⟨writer, data⟩ := write
      refine ⟨pushed (pushed s.events (.recv writer data)) (.connected tag peerAddr s.mtu), fun event member => ?_, ?_⟩
      · rcases mem_pushed member with old | same
        · exact (mem_pushed old).imp_right fun same => .inr ⟨writer, data, held, same⟩
        · exact .inr (.inl ⟨peerAddr, s.mtu, same⟩)
      · rfl

def onAuthenticationComplete (tag : τ) (desc : Desc) (resultOk : Bool) (s : BleState τ) : BleState τ :=
  if !resultOk then s
  else
    let s := if desc.mtu > 0 then { s with mtu := desc.mtu } else s
    -- In each of the three cases the client is disconnected.
    if s.timeoutFired = true ∨ s.pairingRejected = true ∨ s.mtu < bleMtuMin then s
    else completePairingUnderLock tag desc.address s

def onWrite (tag : τ) (value : Bytes) (s : BleState τ) : BleState τ :=
  if value = [] then s
  else if s.authenticated then s.pushEvent (.recv tag value)
  else { s with pendingWrite := some (tag, value) }

inductive NotifyTxStatus where
  | successIndicate
  | errorIndicateTimeout
  | errorIndicateFailure
  | other

def onNotifyTx (status : NotifyTxStatus) (s : BleState τ) : BleState τ :=
  match status with
  | .successIndicate => { s with awaitingConfirm := false }
  | .errorIndicateTimeout | .errorIndicateFailure => { s with indicationQueue := [], awaitingConfirm := false }
  | .other => s

/-! ## Calls of the bridge -/

def enable (started : Bool) (s : BleState τ) : BleState τ := if started then { s with advertising := true } else s

def disable (s : BleState τ) : BleState τ := { s with advertising := false }.clearConnection

def maxIndicationPayload (mtu : Nat) : Nat := mtu - 3

def sendNextChunk (queued : Bool) (s : BleState τ) : BleState τ :=
  if s.awaitingConfirm || s.indicationQueue.isEmpty || s.connHandle.isNone then s
  else { s with indicationQueue := s.indicationQueue.tail, awaitingConfirm := queued }

def indicate (data : Bytes) (queued : Bool) (s : BleState τ) : BleState τ :=
  if data = [] then s
  else if s.mtu = 0 then s
  else
    let chunks := data.toChunks (max (maxIndicationPayload s.mtu) 1)
    if s.indicationQueue.length + chunks.length > maxIndicationChunks then s
    else sendNextChunk queued { s with indicationQueue := s.indicationQueue ++ chunks }

def advanceIndication (queued : Bool) (s : BleState τ) : BleState τ :=
  if !s.indicationQueue.isEmpty && !s.awaitingConfirm then sendNextChunk queued s else s

/-- Unlike `complete_pairing_under_lock`, this does not look at the limit of the event queue. -/
def pairingConfirmReply (accept : Bool) (s : BleState τ) : BleState τ :=
  if !s.pairingPending then s
  else if accept then
    let s := { s with pairingPending := false }
    match s.deferredConnected with
    | none => s
    | some (tag, peerAddr, mtu) =>
      let s := { s with deferredConnected := none, authenticated := true, connectionStart := none, confirmSentAt := none }
      let s := match s.pendingWrite with
        | some (writer, data) => { s with pendingWrite := none, events := s.events ++ [BleEvent.recv writer data] }
        | none => s
      { s with events := s.events ++ [BleEvent.connected tag peerAddr mtu] }
  else { s with pairingPending := false, deferredConnected := none, pairingRejected := true }

theorem pairingConfirmReply_cases (accept : Bool) (s : BleState τ) :
    (s.pairingPending = false ∧ pairingConfirmReply accept s = s) ∨
    (s.pairingPending = true ∧ accept = false ∧
      pairingConfirmReply accept s = { s with pairingPending := false, deferredConnected := none, pairingRejected := true }) ∨
    (s.pairingPending = true ∧ accept = true ∧ pairingConfirmReply accept s = { s with pairingPending := false }) ∨
    (s.pairingPending = true ∧ accept = true ∧ ∃ tag peerAddr mtu events, s.deferredConnected = some (tag, peerAddr, mtu) ∧
      s.Reports tag events ∧ pairingConfirmReply accept s =
        { s with pairingPending := false, deferredConnected := none, authenticated := true, connectionStart := none,
                 confirmSentAt := none, pendingWrite := none, events }) := by
  unfold pairingConfirmReply
  cases pending : s.pairingPending with
  | false => exact .inl ⟨rfl, rfl⟩
  | true =>
    cases accept with
    | false => exact .inr (.inl ⟨rfl, rfl, rfl⟩)
    | true =>
      refine .inr (.inr ?_)
      cases deferred : s.deferredConnected with
      | none => exact .inl ⟨rfl, rfl, rfl⟩
      | some connected =>
        obtain ⟨tag, peerAddr, mtu⟩ := connected
        refine .inr ⟨rfl, rfl, tag, peerAddr, mtu, ?_⟩
        cases held : s.pendingWrite with
        | none =>
          refine ⟨s.events ++ [.connected tag peerAddr mtu], rfl, fun event member => ?_, rfl⟩
          exact (List.mem_append.mp member).imp_right fun last => .inl ⟨peerAddr, mtu, List.mem_singleton.mp last⟩
        | some write =>
          obtain ⟨writer, data⟩ := write
          refine ⟨s.events ++ [.recv writer data] ++ [.connected tag peerAddr mtu], rfl, fun event member => ?_, rfl⟩
          rcases List.mem_append.mp member with old | last
          · exact (List.mem_append.mp old).imp_right fun same => .inr ⟨writer, data, held, List.mem_singleton.mp same⟩
          · exact .inr (.inl ⟨peerAddr, mtu, List.mem_singleton.mp last⟩)

def drainEvent (s : BleState τ) : Option (BleEvent τ) × BleState τ := (s.events.head?, { s with events := s.events.tail })

def BleState.timedOut (now : Nat) (s : BleState τ) : Bool :=
  match s.confirmSentAt with
  | some sentAt => now - sentAt ≥ blePairingTimeoutMs
  | none =>
    match s.connectionStart with
    | some start => now - start ≥ bleIdleTimeoutMs
    | none => false

def checkPairingTimeout (now : Nat) (s : BleState τ) : BleState τ :=
  if s.connHandle.isNone || s.authenticated || !s.timedOut now then s
  else { s with pairingPending := false, deferredConnected := none, timeoutFired := true }

-- What `ble_gap_conn_find` says about the handle.
inductive ConnFind where
  | notConnected
  | failed
  | found (encrypted : Bool) (attMtu : Nat) (peerAddr : Bytes)

/-- The lock is released between the two looks at the state; a callback that comes between them is seen by the second look,
which makes the same tests, so the call is one step. -/
def checkEncryptionFallback (tag : τ) (answer : ConnFind) (s : BleState τ) : BleState τ :=
  if s.authenticated || s.timeoutFired || s.pairingRejected || s.deferredConnected.isSome then s
  else if s.confirmSentAt.isNone || s.connHandle.isNone then s
  else
    match answer with
    | .notConnected => s
    | .failed => { s with encFallbackErrLogged := true }
    | .found encrypted attMtu peerAddr =>
      if !encrypted then s
      else if attMtu < bleMtuMin then s
      else completePairingUnderLock tag peerAddr { s with mtu := attMtu }

end Sonde.Modem
