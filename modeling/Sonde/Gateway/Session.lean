import Sonde.Lib.Bytes
import Mathlib.Logic.Function.Basic

namespace Sonde.Gateway
open Lib

inductive SessionError where
  | notFound (nodeId : String)
  | expired (nodeId : String)
  | sequenceMismatch (expected received : BitVec 64)

inductive SessionState where
  | awaitingPostWake
  | chunkedTransfer (programHash : Bytes) (programSize chunkSize chunkCount : Nat) (isEphemeral : Bool)
  | bpfExecuting

/-- `number` is not in the source: it tells the sessions of one gateway apart. -/
structure Session where
  nodeId : String
  peerAddress : Bytes
  wakeNonce : BitVec 64
  nextExpectedSeq : BitVec 64
  createdAt : Nat
  state : SessionState
  number : Nat

/-- `created` counts the calls of `create_session`, to number them. -/
structure SessionManager where
  sessions : String → Option Session
  timeout : Nat
  created : Nat

namespace SessionManager

def createSession (now : Nat) (nodeId : String) (peerAddress : Bytes) (wakeNonce startingSeq : BitVec 64)
    (m : SessionManager) : SessionManager :=
  { m with
    sessions := Function.update m.sessions nodeId (some
      { nodeId, peerAddress, wakeNonce, nextExpectedSeq := startingSeq, createdAt := now,
        state := .awaitingPostWake, number := m.created })
    created := m.created + 1 }

def getSession (nodeId : String) (m : SessionManager) : Option Session := m.sessions nodeId

-- The addition wraps at 2^64, as it does in a release build.
def verifyAndAdvanceSeq (now : Nat) (nodeId : String) (receivedSeq : BitVec 64) (m : SessionManager) :
    Except SessionError Unit × SessionManager :=
  match m.sessions nodeId with
  | none => (.error (.notFound nodeId), m)
  | some session =>
    if now - session.createdAt > m.timeout then
      (.error (.expired nodeId), { m with sessions := Function.update m.sessions nodeId none })
    else if receivedSeq ≠ session.nextExpectedSeq then
      (.error (.sequenceMismatch session.nextExpectedSeq receivedSeq), m)
    else
      (.ok (), { m with
        sessions := Function.update m.sessions nodeId
          (some { session with nextExpectedSeq := session.nextExpectedSeq + 1 }) })

-- Its `NotFound` is ignored by every caller.
def setState (nodeId : String) (state : SessionState) (m : SessionManager) : SessionManager :=
  { m with sessions := Function.update m.sessions nodeId ((m.sessions nodeId).map fun s => { s with state }) }

def removeSession (nodeId : String) (m : SessionManager) : SessionManager :=
  { m with sessions := Function.update m.sessions nodeId none }

end SessionManager

end Sonde.Gateway
