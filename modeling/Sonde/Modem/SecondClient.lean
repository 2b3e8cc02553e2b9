import Sonde.Lib.Run
import Sonde.Modem.Ble

/-!
# A second BLE client

`on_connect` turns a second client away, but the callbacks for it still come, and the others do not ask whose they are.
-/

namespace Sonde.Modem
open Lib

/-- A callback for a client other than the one that the modem serves. With `others` further links up, the stack counts two
more when it calls `on_connect`: the served client's and the new one. -/
inductive Callback where
  | connect (others : Nat) (desc : Desc) (now : Nat)
  | confirmPin (passkey now : Nat)
  | authenticationComplete (desc : Desc) (resultOk : Bool)
  | write (value : Bytes)
  | disconnect (desc : Desc) (reasonOk : Bool)

def Callback.step (s : BleState Unit) : Callback → BleState Unit
  | .connect others desc now => onConnect (others + 2) desc now s
  | .confirmPin passkey now => onConfirmPin passkey now s
  | .authenticationComplete desc resultOk => onAuthenticationComplete () desc resultOk s
  | .write value => onWrite () value s
  | .disconnect desc reasonOk => onDisconnect desc reasonOk s

def BleState.Full (s : BleState Unit) : Prop := maxBleEventQueue ≤ s.events.length

def Callback.Harmless (s : BleState Unit) : Callback → Prop
  | .connect .. => True
  | .confirmPin _ now => s.pairingPending = true ∧ s.confirmSentAt = some now ∧ s.Full
  | .authenticationComplete desc resultOk => resultOk = true → (desc.mtu = 0 ∨ desc.mtu = s.mtu) ∧
      (s.timeoutFired = true ∨ s.pairingRejected = true ∨ s.mtu < bleMtuMin ∨
        (s.pairingPending = true ∧ s.deferredConnected ≠ none) ∨ (s.pairingPending = false ∧ s.authenticated = true))
  | .write value => value = [] ∨ (s.authenticated = true ∧ s.Full) ∨ (s.authenticated = false ∧ s.pendingWrite = some ((), value))
  | .disconnect .. => False

variable {s : BleState Unit}

theorem pushed_same {events : List (BleEvent Unit)} (event : BleEvent Unit) :
    pushed events event = events ↔ maxBleEventQueue ≤ events.length := by
  unfold pushed
  split
  · exact iff_of_false (by simp) (by omega)
  · exact iff_of_true rfl (by omega)

theorem confirmPin_same {passkey now : Nat} : onConfirmPin passkey now s = s ↔
    s.pairingPending = true ∧ s.confirmSentAt = some now ∧ s.Full := by
  unfold BleState.Full
  rw [← pushed_same (.pairingConfirm passkey)]
  constructor
  · intro same
    refine ⟨?_, ?_, ?_⟩
    · rw [← same]; rfl
    · rw [← same]; rfl
    · exact congrArg BleState.events same
  · cases s
    simp_all [onConfirmPin, BleState.pushEvent]

theorem completePairing_same {peerAddr : Bytes} : completePairingUnderLock () peerAddr s = s ↔
      (s.pairingPending = true ∧ s.deferredConnected ≠ none) ∨ (s.pairingPending = false ∧ s.authenticated = true) := by
  unfold completePairingUnderLock
  cases pending : s.pairingPending with
  | true =>
    cases deferred : s.deferredConnected with
    | none =>
      refine iff_of_false (fun same => ?_) (by simp)
      have changed := congrArg BleState.deferredConnected same
      simp [deferred] at changed
    | some connected => simp
  | false =>
    cases known : s.authenticated with
    | true => simp
    | false =>
      refine iff_of_false (fun same => ?_) (by simp)
      have changed := congrArg BleState.authenticated same
      cases held : s.pendingWrite <;> simp [held, BleState.pushEvent, known] at changed

theorem completePairing_mtu (peerAddr : Bytes) (s : BleState Unit) :
    (completePairingUnderLock () peerAddr s).mtu = s.mtu := by
  unfold completePairingUnderLock
  cases s.pairingPending <;> cases s.authenticated <;> cases s.deferredConnected <;> cases s.pendingWrite <;> rfl

theorem authenticationComplete_same {desc : Desc} {resultOk : Bool} :
    onAuthenticationComplete () desc resultOk s = s ↔ (Callback.authenticationComplete desc resultOk).Harmless s := by
  cases resultOk with
  | false => exact iff_of_true rfl (fun ok => nomatch ok)
  | true =>
    simp only [onAuthenticationComplete, Callback.Harmless, Bool.not_true, Bool.false_eq_true, if_false, forall_const]
    by_cases same : desc.mtu = 0 ∨ desc.mtu = s.mtu
    · have stored : (if desc.mtu > 0 then { s with mtu := desc.mtu } else s) = s := by
        rcases same with none | same
        · rw [if_neg (by omega)]
        · rw [same, ite_self]
      rw [stored]
      split
      · exact iff_of_true rfl ⟨same, by tauto⟩
      · rw [completePairing_same]
        tauto
    · refine iff_of_false (fun unchanged => ?_) fun harmless => same harmless.1
      rw [if_pos (show desc.mtu > 0 by omega)] at unchanged
      refine same (.inr ?_)
      rw [← congrArg BleState.mtu unchanged]
      split
      · rfl
      · rw [completePairing_mtu]

theorem write_same {value : Bytes} : onWrite () value s = s ↔ (Callback.write value).Harmless s := by
  unfold onWrite Callback.Harmless
  by_cases empty : value = []
  · exact iff_of_true (if_pos empty) (.inl empty)
  rw [if_neg empty]
  by_cases known : s.authenticated = true
  · rw [if_pos known]
    have full : s.pushEvent (.recv () value) = s ↔ s.Full := by
      refine Iff.trans ?_ (pushed_same (.recv () value))
      exact ⟨congrArg BleState.events, fun same => by rw [BleState.pushEvent, same]⟩
    rw [full]
    simp [empty, known]
  · rw [if_neg known]
    have held : { s with pendingWrite := some ((), value) } = s ↔ s.pendingWrite = some ((), value) := by
      refine ⟨fun same => ?_, fun held => ?_⟩
      · rw [← same]
      · rw [← held]
    rw [held]
    simp [empty, known]

theorem Callback.step_same (active : s.connHandle ≠ none) (callback : Callback) :
    callback.step s = s ↔ callback.Harmless s := by
  cases callback with
  | connect others desc now => exact iff_of_true (if_pos (show others + 2 > 1 by omega) : onConnect (others + 2) desc now s = s) trivial
  | confirmPin passkey now => exact confirmPin_same
  | authenticationComplete desc resultOk => exact authenticationComplete_same
  | write value => exact write_same
  | disconnect desc reasonOk =>
    refine iff_of_false (fun same => active ?_) id
    exact (congrArg BleState.connHandle same).symm

theorem second_client_harmless_iff (active : s.connHandle ≠ none) (callbacks : List Callback) :
    Always Callback.step (· = s) s callbacks ↔ ∀ callback ∈ callbacks, callback.Harmless s := by
  induction callbacks with
  | nil => exact iff_of_true (always_nil.mpr rfl) (by simp)
  | cons callback callbacks ih =>
    rw [always_cons, List.forall_mem_cons, ← callback.step_same active]
    constructor
    · rintro ⟨-, always⟩
      have same := always.head
      rw [same] at always
      exact ⟨same, ih.mp always⟩
    · rintro ⟨same, harmless⟩
      rw [same]
      exact ⟨rfl, ih.mpr harmless⟩

def served : BleState Unit := { mtu := 247, connHandle := some 1, authenticated := true }

def secondDesc : Desc := ⟨[2], 2, 23⟩

theorem second_client_turned_away :
    Always Callback.step (· = served) served [.connect 0 secondDesc 5, .authenticationComplete secondDesc false, .write []] :=
  (second_client_harmless_iff (by decide) _).mpr (by simp [Callback.Harmless])

theorem second_client_disconnects_first :
    [.connect 0 secondDesc 5, .disconnect secondDesc true].foldl Callback.step served =
        { events := [.disconnected [2] 0x16] } ∧
      [.connect 0 secondDesc 5, .disconnect secondDesc true].foldl Callback.step served ≠ served := by
  decide

end Sonde.Modem
