import Sonde.Lib.Run
import Sonde.Modem.Ble

/-!
# The operator's approval of a BLE client

`BLE_PAIRING_CONFIRM_REPLY` says yes or no, but not to which passkey. The connections are numbered in the order in which they
come up, and each value that the driver keeps for a client is tagged with the number of its connection.
-/

namespace Sonde.Modem
open Lib List

structure ModemState where
  ble : BleState Nat := {}
  links : List Nat := []
  count : Nat := 0
  served : Option Nat := none
  shown : List Nat := []
  approved : List Nat := []

/-- `conn` is the connection that a callback is for, or the one whose passkey the operator replies to. -/
inductive ModemEvent where
  | connect (desc : Desc) (now : Nat)
  | disconnect (conn : Nat) (desc : Desc) (reasonOk : Bool)
  | confirmPin (conn passkey now : Nat)
  | authenticationComplete (conn : Nat) (desc : Desc) (resultOk : Bool)
  | write (conn : Nat) (value : Bytes)
  | notifyTx (status : NotifyTxStatus)
  | reply (conn : Nat) (accept : Bool)
  | checkPairingTimeout (now : Nat)
  | checkEncryptionFallback (answer : ConnFind)
  | drainEvent
  | indicate (data : Bytes) (queued : Bool)
  | advanceIndication (queued : Bool)
  | enable (started : Bool)
  | disable

variable (m : ModemState)

def ModemEvent.step : ModemEvent → ModemState
  | .connect desc now =>
    { m with
      ble := onConnect (m.links.length + 1) desc now m.ble
      links := m.count :: m.links
      count := m.count + 1
      served := if m.links = [] then some m.count else m.served }
  | .disconnect conn desc reasonOk =>
    { m with ble := onDisconnect desc reasonOk m.ble, links := m.links.erase conn, served := none }
  | .confirmPin conn passkey now => { m with ble := onConfirmPin passkey now m.ble, shown := conn :: m.shown }
  | .authenticationComplete conn desc resultOk => { m with ble := onAuthenticationComplete conn desc resultOk m.ble }
  | .write conn value => { m with ble := onWrite conn value m.ble }
  | .notifyTx status => { m with ble := onNotifyTx status m.ble }
  | .reply conn accept =>
    { m with ble := pairingConfirmReply accept m.ble, approved := if accept then conn :: m.approved else m.approved }
  | .checkPairingTimeout now => { m with ble := Modem.checkPairingTimeout now m.ble }
  | .checkEncryptionFallback answer =>
    match m.served with
    | some conn => { m with ble := Modem.checkEncryptionFallback conn answer m.ble }
    | none => m
  | .drainEvent => { m with ble := (Modem.drainEvent m.ble).2 }
  | .indicate data queued => { m with ble := Modem.indicate data queued m.ble }
  | .advanceIndication queued => { m with ble := Modem.advanceIndication queued m.ble }
  | .enable started => { m with ble := Modem.enable started m.ble }
  | .disable => { m with ble := Modem.disable m.ble, served := none }

/-- What the stack and the operator keep to: callbacks are for links that are up, authentication completes after the passkey
was shown, and a reply is to a passkey that was shown. -/
def ModemEvent.Possible : ModemEvent → Prop
  | .disconnect conn _ _ | .confirmPin conn _ _ | .write conn _ => conn ∈ m.links
  | .authenticationComplete conn _ resultOk => conn ∈ m.links ∧ (resultOk = true → conn ∈ m.shown)
  | .reply conn _ => conn ∈ m.shown
  | _ => True

instance (m : ModemState) : (event : ModemEvent) → Decidable (event.Possible m)
  | .disconnect .. | .confirmPin .. | .write .. | .reply .. => inferInstanceAs (Decidable (_ ∈ _))
  | .authenticationComplete .. => inferInstanceAs (Decidable (_ ∧ _))
  | .connect .. | .notifyTx _ | .checkPairingTimeout _ | .checkEncryptionFallback _ | .drainEvent | .indicate ..
  | .advanceIndication _ | .enable _ | .disable => inferInstanceAs (Decidable True)

/-- The passkey, the completed authentication or the write is of the connection that the driver serves, and an accepting
reply that the driver waits for is to the passkey of that connection. -/
def ModemEvent.Bound : ModemEvent → Prop
  | .confirmPin conn _ _ => m.served = some conn
  | .authenticationComplete conn _ resultOk => resultOk = true → m.served = some conn
  | .write conn value => value ≠ [] → m.served = some conn
  | .reply conn accept => accept = true → m.ble.pairingPending = true → m.served = some conn
  | _ => True

instance (m : ModemState) : (event : ModemEvent) → Decidable (event.Bound m)
  | .confirmPin .. => inferInstanceAs (Decidable (_ = _))
  | .authenticationComplete .. | .write .. | .reply .. => inferInstanceAs (Decidable (_ → _))
  | .connect .. | .disconnect .. | .notifyTx _ | .checkPairingTimeout _ | .checkEncryptionFallback _ | .drainEvent
  | .indicate .. | .advanceIndication _ | .enable _ | .disable => inferInstanceAs (Decidable True)

def BleEvent.origin : BleEvent Nat → Option Nat
  | .recv conn _ => some conn
  | .connected conn _ _ => some conn
  | .disconnected .. | .pairingConfirm _ => none

def ModemState.Approved : Prop := ∀ event ∈ m.ble.events, ∀ conn, event.origin = some conn → conn ∈ m.approved

/-! ## What the driver keeps -/

structure Pairing where
  connHandle : Option Nat
  pairingPending : Bool
  deferredConnected : Option (Nat × Bytes × Nat)
  authenticated : Bool
  confirmSentAt : Option Nat
  timeoutFired : Bool
  pairingRejected : Bool
  pendingWrite : Option (Nat × Bytes)

def BleState.pairing (s : BleState Nat) : Pairing :=
  ⟨s.connHandle, s.pairingPending, s.deferredConnected, s.authenticated, s.confirmSentAt, s.timeoutFired, s.pairingRejected,
    s.pendingWrite⟩

def Pairing.idle : Pairing := ⟨none, false, none, false, none, false, false, none⟩

structure Pairing.Guards (p : Pairing) (served : Option Nat) (shown approved : List Nat) : Prop where
  idle : served = none → p = .idle
  deferred : ∀ conn addr mtu, p.deferredConnected = some (conn, addr, mtu) → served = some conn
  held : ∀ conn data, p.pendingWrite = some (conn, data) → served = some conn
  known : p.authenticated = true → ∀ conn, served = some conn → conn ∈ approved
  sent : p.confirmSentAt ≠ none → ∀ conn, served = some conn → conn ∈ shown
  decided : ∀ conn, served = some conn → conn ∈ shown →
    p.pairingPending = true ∨ conn ∈ approved ∨ p.timeoutFired = true ∨ p.pairingRejected = true

structure ModemState.Guarded (m : ModemState) : Prop where
  guards : m.ble.pairing.Guards m.served m.shown m.approved
  approved : m.Approved
  linked : ∀ conn, m.served = some conn → conn ∈ m.links
  counted : ∀ conn ∈ m.links, conn < m.count
  numbered : ∀ conn ∈ m.shown, conn < m.count

variable {m : ModemState}

theorem guarded_initial : (({} : ModemState)).Guarded where
  guards := ⟨fun _ => rfl, nofun, nofun, nofun, fun sent => absurd rfl sent, nofun⟩
  approved := nofun
  linked := nofun
  counted := nofun
  numbered := nofun

variable {ble : BleState Nat}

theorem ModemState.Guarded.driven (guarded : m.Guarded) (guards : ble.pairing.Guards m.served m.shown m.approved)
    (events : ∀ event ∈ ble.events, event ∈ m.ble.events ∨ ∀ conn, event.origin = some conn → conn ∈ m.approved) :
    { m with ble }.Guarded :=
  { guarded with
    guards
    approved := fun event member => (events event member).elim (guarded.approved event) id }

theorem ModemState.Guarded.quiet (guarded : m.Guarded) (same : ble.pairing = m.ble.pairing)
    (fewer : ble.events ⊆ m.ble.events) : { m with ble }.Guarded :=
  guarded.driven (same ▸ guarded.guards) fun _ member => .inl (fewer member)

variable {approved : List Nat} {conn : Nat}

theorem Pairing.Guards.letsIn {p : Pairing} {shown : List Nat}
    (guards : p.Guards (some conn) shown approved) (allowed : conn ∈ approved) {pending : Bool}
    {deferred : Option (Nat × Bytes × Nat)} (kept : deferred = none ∨ deferred = p.deferredConnected) :
    { p with pairingPending := pending, deferredConnected := deferred, authenticated := true, confirmSentAt := none,
             pendingWrite := none : Pairing }.Guards (some conn) shown approved where
  idle := nofun
  deferred := by
    intro other addr mtu same
    rcases kept with rfl | rfl
    · cases same
    · exact guards.deferred other addr mtu same
  held := nofun
  known := fun _ other same => by cases same; exact allowed
  sent := fun sent => absurd rfl sent
  decided := fun other same _ => .inr (.inl (by cases same; exact allowed))

theorem ModemState.Guarded.reports (guarded : m.Guarded) (served : m.served = some conn) (allowed : conn ∈ approved) {events : List (BleEvent Nat)}
    (reports : m.ble.Reports conn events) :
    ∀ event ∈ events, event ∈ m.ble.events ∨ ∀ other, event.origin = some other → other ∈ approved := by
  intro event member
  refine (reports event member).imp_right fun report other origin => ?_
  rcases report with ⟨peerAddr, mtu, rfl⟩ | ⟨writer, data, held, rfl⟩
  · cases origin
    exact allowed
  · cases origin
    cases served.symm.trans (guarded.guards.held _ _ held)
    exact allowed

section
variable (guarded : m.Guarded)
include guarded

theorem connect_guarded (desc : Desc) (now : Nat) :
    ((ModemEvent.connect desc now).step m).Guarded := by
  have counted : ∀ conn ∈ m.count :: m.links, conn < m.count + 1 := by
    intro conn member
    rcases mem_cons.mp member with rfl | old
    · omega
    · exact (guarded.counted conn old).trans (Nat.lt_succ_self _)
  have numbered : ∀ conn ∈ m.shown, conn < m.count + 1 := fun conn member => (guarded.numbered conn member).trans (Nat.lt_succ_self _)
  simp only [ModemEvent.step]
  by_cases alone : m.links = []
  · have free : m.served = none := by
      cases served : m.served with
      | none => rfl
      | some conn => exact absurd (alone ▸ guarded.linked conn served) not_mem_nil
    have paired : (onConnect (m.links.length + 1) desc now m.ble).pairing =
        { Pairing.idle with connHandle := some desc.connHandle } := by
      rw [← guarded.guards.idle free, alone]
      rfl
    have events : (onConnect (m.links.length + 1) desc now m.ble).events = m.ble.events := by
      rw [alone]
      rfl
    rw [if_pos alone]
    refine ⟨?_, fun event member => guarded.approved event (events ▸ member), ?_, counted, numbered⟩
    · rw [paired]
      refine ⟨nofun, nofun, nofun, nofun, fun sent => absurd rfl sent, fun conn same shown => ?_⟩
      cases same
      exact absurd (guarded.numbered _ shown) (Nat.lt_irrefl _)
    · intro conn same
      cases same
      exact mem_cons_self
  · have second : onConnect (m.links.length + 1) desc now m.ble = m.ble := if_pos (Nat.succ_lt_succ (length_pos_of_ne_nil alone))
    rw [if_neg alone, second]
    exact ⟨guarded.guards, guarded.approved, fun conn same => mem_cons_of_mem _ (guarded.linked conn same), counted, numbered⟩

theorem disconnect_guarded (conn : Nat) (desc : Desc) (reasonOk : Bool) :
    ((ModemEvent.disconnect conn desc reasonOk).step m).Guarded where
  guards := ⟨fun _ => rfl, nofun, nofun, nofun, nofun, nofun⟩
  approved := by
    intro event member
    rcases mem_pushed member with old | rfl
    · exact guarded.approved event old
    · exact nofun
  linked := nofun
  counted := fun other member => guarded.counted other (mem_of_mem_erase member)
  numbered := guarded.numbered

theorem confirmPin_guarded (passkey now : Nat) (served : m.served = some conn) :
    ((ModemEvent.confirmPin conn passkey now).step m).Guarded where
  guards := by
    refine ⟨fun free => ?_, guarded.guards.deferred, guarded.guards.held, guarded.guards.known, fun _ other same => ?_,
      fun _ _ _ => .inl rfl⟩
    · exact absurd (served.symm.trans free) (by simp)
    · cases served.symm.trans same
      exact mem_cons_self
  approved := by
    intro event member
    rcases mem_pushed member with old | rfl
    · exact guarded.approved event old
    · exact nofun
  linked := guarded.linked
  counted := guarded.counted
  numbered := by
    intro other member
    rcases mem_cons.mp member with rfl | old
    · exact guarded.counted _ (guarded.linked _ served)
    · exact guarded.numbered _ old

theorem completePairing_guarded (peerAddr : Bytes) (served : m.served = some conn)
    (shown : conn ∈ m.shown) (inTime : m.ble.timeoutFired = false) (wanted : m.ble.pairingRejected = false) :
    { m with ble := completePairingUnderLock conn peerAddr m.ble }.Guarded := by
  rcases completePairing_cases conn peerAddr m.ble with same | defers | ⟨decided, -, events, reports, promotes⟩
  · rw [same]
    exact guarded
  · rw [defers]
    refine guarded.driven { guarded.guards with
      idle := fun free => absurd (served.symm.trans free) (by simp)
      deferred := fun other addr mtu same => ?_ } fun _ member => .inl member
    cases same
    exact served
  · have approved : conn ∈ m.approved := by
      rcases guarded.guards.decided conn served shown with waits | approved | late | rejected
      · exact absurd (decided.symm.trans waits) (by simp)
      · exact approved
      · exact absurd (inTime.symm.trans late) (by simp)
      · exact absurd (wanted.symm.trans rejected) (by simp)
    rw [promotes]
    refine guarded.driven ?_ (guarded.reports served approved reports)
    have guards := guarded.guards
    rw [served] at guards ⊢
    exact guards.letsIn approved (.inr rfl)

theorem authenticationComplete_guarded (desc : Desc) {resultOk : Bool}
    (served : resultOk = true → m.served = some conn) (shown : resultOk = true → conn ∈ m.shown) :
    ((ModemEvent.authenticationComplete conn desc resultOk).step m).Guarded := by
  cases resultOk with
  | false => exact guarded
  | true =>
    simp only [ModemEvent.step, onAuthenticationComplete, Bool.not_true, Bool.false_eq_true, if_false]
    generalize stored : (if desc.mtu > 0 then { m.ble with mtu := desc.mtu } else m.ble) = ble
    have guarded' : { m with ble }.Guarded := by
      rw [← stored]
      split
      · exact guarded.quiet rfl fun _ member => member
      · exact guarded
    split_ifs with stops
    · exact guarded'
    · obtain ⟨inTime, wanted, -⟩ : ¬ble.timeoutFired = true ∧ ¬ble.pairingRejected = true ∧ _ := by
        simpa only [not_or] using stops
      exact completePairing_guarded guarded' desc.address (served rfl) (shown rfl) (by simpa using inTime) (by simpa using wanted)

theorem write_guarded {value : Bytes} (served : value ≠ [] → m.served = some conn) :
    ((ModemEvent.write conn value).step m).Guarded := by
  simp only [ModemEvent.step, onWrite]
  split_ifs with empty known
  · exact guarded
  · refine guarded.driven guarded.guards fun event member => (mem_pushed member).imp_right ?_
    rintro rfl other origin
    cases origin
    exact guarded.guards.known known conn (served empty)
  · refine guarded.driven { guarded.guards with
      idle := fun free => absurd ((served empty).symm.trans free) (by simp)
      held := fun other data same => ?_ } fun _ member => .inl member
    cases same
    exact served empty

theorem reply_guarded {accept : Bool}
    (bound : accept = true → m.ble.pairingPending = true → m.served = some conn) :
    ((ModemEvent.reply conn accept).step m).Guarded := by
  let m' : ModemState := { m with approved := if accept then conn :: m.approved else m.approved }
  have more : m.approved ⊆ m'.approved := by
    intro other member
    cases accept with
    | false => exact member
    | true => exact mem_cons_of_mem _ member
  have guarded' : m'.Guarded :=
    { guarded with
      guards := { guarded.guards with
        known := fun known other same => more (guarded.guards.known known other same)
        decided := fun other same shown => (guarded.guards.decided other same shown).imp_right (Or.imp_left fun old => more old) }
      approved := fun event member other origin => more (guarded.approved event member other origin) }
  change { m' with ble := pairingConfirmReply accept m.ble }.Guarded
  rcases pairingConfirmReply_cases accept m.ble with ⟨-, same⟩ | ⟨waits, -, rejects⟩ | ⟨waits, rfl, accepts⟩ |
    ⟨waits, rfl, tag, peerAddr, mtu, events, deferred, reports, promotes⟩
  · rw [same]
    exact guarded'
  · rw [rejects]
    refine guarded'.driven { guarded'.guards with
      idle := fun free => ?_
      deferred := nofun
      decided := fun _ _ _ => .inr (.inr (.inr rfl)) } fun _ member => .inl member
    exact absurd (waits.symm.trans (congrArg Pairing.pairingPending (guarded.guards.idle free))) (by decide)
  · rw [accepts]
    refine guarded'.driven { guarded'.guards with
      idle := fun free => absurd ((bound rfl waits).symm.trans free) (by simp)
      decided := fun other same _ => .inr (.inl ?_) } fun _ member => .inl member
    cases (bound rfl waits).symm.trans same
    exact mem_cons_self
  · have served := bound rfl waits
    cases served.symm.trans (guarded.guards.deferred _ _ _ deferred)
    have allowed : conn ∈ m'.approved := mem_cons_self
    rw [promotes]
    refine guarded'.driven ?_ (guarded'.reports served allowed reports)
    have guards := guarded'.guards
    rw [show m'.served = some conn from served] at guards ⊢
    exact guards.letsIn allowed (.inl rfl)

theorem checkPairingTimeout_guarded (now : Nat) :
    ((ModemEvent.checkPairingTimeout now).step m).Guarded := by
  simp only [ModemEvent.step, checkPairingTimeout]
  split_ifs with spared
  · exact guarded
  · refine guarded.driven { guarded.guards with
      idle := fun free => ?_
      deferred := nofun
      decided := fun _ _ _ => .inr (.inr (.inl rfl)) } fun _ member => .inl member
    have idle := congrArg Pairing.connHandle (guarded.guards.idle free)
    exact absurd (by simp [show m.ble.connHandle = none from idle]) spared

theorem checkEncryptionFallback_guarded (served : m.served = some conn)
    (answer : ConnFind) : { m with ble := checkEncryptionFallback conn answer m.ble }.Guarded := by
  unfold checkEncryptionFallback
  split_ifs with decided absent
  · exact guarded
  · exact guarded
  cases answer with
  | notConnected => exact guarded
  | failed => exact guarded.quiet rfl fun _ member => member
  | found encrypted attMtu peerAddr =>
    dsimp only
    split_ifs with plain small
    · exact guarded
    · exact guarded
    · have stored : { m with ble := { m.ble with mtu := attMtu } }.Guarded := guarded.quiet rfl fun _ member => member
      simp only [Bool.or_eq_true, not_or, Option.isNone_iff_eq_none] at decided absent
      obtain ⟨⟨⟨-, inTime⟩, wanted⟩, -⟩ := decided
      exact completePairing_guarded stored peerAddr served (guarded.guards.sent absent.1 conn served)
        (by simpa using inTime) (by simpa using wanted)

end

theorem sendNextChunk_quiet (queued : Bool) (s : BleState Nat) :
    (sendNextChunk queued s).pairing = s.pairing ∧ (sendNextChunk queued s).events = s.events := by
  unfold sendNextChunk
  split_ifs <;> exact ⟨rfl, rfl⟩

theorem indicate_quiet (data : Bytes) (queued : Bool) (s : BleState Nat) :
    (indicate data queued s).pairing = s.pairing ∧ (indicate data queued s).events = s.events := by
  unfold indicate
  dsimp only
  split_ifs
  · exact ⟨rfl, rfl⟩
  · exact ⟨rfl, rfl⟩
  · exact ⟨rfl, rfl⟩
  · exact sendNextChunk_quiet queued _

theorem advanceIndication_quiet (queued : Bool) (s : BleState Nat) :
    (advanceIndication queued s).pairing = s.pairing ∧ (advanceIndication queued s).events = s.events := by
  unfold advanceIndication
  split_ifs
  · exact sendNextChunk_quiet queued s
  · exact ⟨rfl, rfl⟩

theorem ModemEvent.step_guarded {event : ModemEvent} (possible : event.Possible m) (bound : event.Bound m)
    (guarded : m.Guarded) : (event.step m).Guarded := by
  cases event with
  | connect desc now => exact connect_guarded guarded desc now
  | disconnect conn desc reasonOk => exact disconnect_guarded guarded conn desc reasonOk
  | confirmPin conn passkey now => exact confirmPin_guarded guarded passkey now bound
  | authenticationComplete conn desc resultOk => exact authenticationComplete_guarded guarded desc bound possible.2
  | write conn value => exact write_guarded guarded bound
  | notifyTx status => exact guarded.quiet (by cases status <;> rfl) (by cases status <;> exact fun _ member => member)
  | reply conn accept => exact reply_guarded guarded bound
  | checkPairingTimeout now => exact checkPairingTimeout_guarded guarded now
  | checkEncryptionFallback answer =>
    simp only [ModemEvent.step]
    split
    · exact checkEncryptionFallback_guarded guarded ‹_› answer
    · exact guarded
  | drainEvent => exact guarded.quiet rfl fun _ member => mem_of_mem_tail member
  | indicate data queued =>
    obtain ⟨same, events⟩ := indicate_quiet data queued m.ble
    exact guarded.quiet same fun _ member => events ▸ member
  | advanceIndication queued =>
    obtain ⟨same, events⟩ := advanceIndication_quiet queued m.ble
    exact guarded.quiet same fun _ member => events ▸ member
  | enable started => exact guarded.quiet (by cases started <;> rfl) (by cases started <;> exact fun _ member => member)
  | disable =>
    exact { guarded with
      guards := ⟨fun _ => rfl, nofun, nofun, nofun, nofun, nofun⟩
      linked := nofun }

theorem approval_binds {events : List ModemEvent}
    (bound : Throughout ModemEvent.step (fun m event => event.Possible m ∧ event.Bound m) {} events) :
    Always ModemEvent.step ModemState.Approved {} events := by
  have always : Always ModemEvent.step ModemState.Guarded {} events :=
    bound.always (fun _ _ guarded meets => ModemEvent.step_guarded meets.1 meets.2 guarded) guarded_initial
  exact fun done rest split => (always done rest split).approved

def phoneDesc : Desc := ⟨[1], 1, 247⟩

theorem approval_binds_once : Always ModemEvent.step ModemState.Approved {}
    [.connect phoneDesc 0, .confirmPin 0 111111 10, .authenticationComplete 0 phoneDesc true, .reply 0 true, .write 0 [1]] :=
  approval_binds (by decide)

def lateReply : List ModemEvent :=
  [.connect phoneDesc 0, .confirmPin 0 111111 10, .disconnect 0 phoneDesc true, .connect phoneDesc 20, .confirmPin 1 222222 30,
    .authenticationComplete 1 phoneDesc true, .reply 0 true]

theorem late_reply_approves_other : Throughout ModemEvent.step ModemEvent.Possible {} lateReply ∧
      (lateReply.foldl ModemEvent.step {}).ble.events =
        [.pairingConfirm 111111, .disconnected [1] 0x16, .pairingConfirm 222222, .connected 1 [1] 247] ∧
      1 ∉ (lateReply.foldl ModemEvent.step {}).approved := by
  decide

end Sonde.Modem
