import Sonde.Gateway.FrameOutcome

namespace Sonde.Engine
open Lib Protocol Sonde.Gateway

def NoReuse (sealed : List Sealed) : Prop :=
  ∀ a ∈ sealed, ∀ b ∈ sealed, a.psk = b.psk → a.header.msgType = b.header.msgType →
    a.header.nonce = b.header.nonce → a.plaintext = b.plaintext

/-! ## Runs that do not reuse a nonce -/

/-- A frame that is not a retransmission the gateway answers anew: its WAKE nonce got no COMMAND yet under the
sender's key, its DIAG_REQUEST nonce got no DIAG_REPLY with another RSSI, and a reply with its sequence number was
sent, if at all, in the session it belongs to. -/
structure Unrepeated (lib : Libraries) (g : Gateway) (inputs : Inputs) (decoded : DecodedFrame) : Prop where
  wake : decoded.header.msgType = msgWake → ∀ node payload,
    (authenticateNode lib inputs decoded g).1 = .ok (node, payload) → ∀ e ∈ g.sealed, e.psk = node.psk →
    e.header.msgType = msgCommand → e.header.nonce ≠ decoded.header.nonce
  diag : decoded.header.msgType = msgDiagRequest → ∀ phone payload,
    (authenticatePhone lib inputs decoded g).1 = .ok (phone, payload) → ∀ e ∈ g.sealed, e.psk = phone.psk →
    e.header.msgType = msgDiagReply → e.header.nonce = decoded.header.nonce →
    e.plaintext = (GatewayMessage.diagReply diagTypeRssi (inputs.rssi.getD 0)).encode
  postWake : decoded.header.msgType ≠ msgWake → ∀ node payload session,
    (authenticateNode lib inputs decoded g).1 = .ok (node, payload) → g.sessionManager.getSession node.nodeId = some session →
    ∀ e ∈ g.sealed, e.psk = node.psk → e.header.msgType = msgChunk ∨ e.header.msgType = msgAppDataReply →
    e.header.nonce = decoded.header.nonce → e.session = some session.number

def Event.Unrepeated (lib : Libraries) (g : Gateway) : Event → Prop
  | .frame inputs raw => ∀ decoded, decodeFrame raw = .ok decoded → Engine.Unrepeated lib g inputs decoded
  | _ => True

def AllUnrepeated (lib : Libraries) : Gateway → List Event → Prop
  | _, [] => True
  | g, event :: events => event.Unrepeated lib g ∧ AllUnrepeated lib (g.step lib event) events

structure Ordered (n : Nat) (g : Gateway) : Prop where
  noReuse : NoReuse g.sealed
  peerAck : ∀ e ∈ g.sealed, e.header.msgType = msgPeerAck → e.plaintext = peerAckCbor
  numbered : ∀ e ∈ g.sealed, ∀ number, e.session = some number → number < g.sessionManager.created
  created : ∀ nodeId session, g.sessionManager.sessions nodeId = some session → session.number < g.sessionManager.created
  distinct : ∀ a b s t, g.sessionManager.sessions a = some s → g.sessionManager.sessions b = some t →
    s.number = t.number → a = b
  behind : ∀ nodeId session, g.sessionManager.sessions nodeId = some session → ∀ e ∈ g.sealed,
    e.session = some session.number → ∃ i, 0 < i ∧ i ≤ n ∧ e.header.nonce + BitVec.ofNat 64 i = session.nextExpectedSeq

variable {inputs : Inputs} {lib : Libraries} {n : Nat} {g g' : Gateway}

-- Sessions that come from old ones, with the same number and at most `k` frames more, and new ones with new numbers.
theorem Ordered.of_sessions {k : Nat} (ordered : Ordered n g) (sealed : g'.sealed = g.sealed)
    (created : g.sessionManager.created ≤ g'.sessionManager.created) (nodeId : String)
    (others : ∀ id after, id ≠ nodeId → g'.sessionManager.sessions id = some after →
      g.sessionManager.sessions id = some after) (here : ∀ after, g'.sessionManager.sessions nodeId = some after →
      (∃ before, g.sessionManager.sessions nodeId = some before ∧ after.number = before.number ∧
        after.nextExpectedSeq = before.nextExpectedSeq + BitVec.ofNat 64 k) ∨
      (g.sessionManager.created ≤ after.number ∧ after.number < g'.sessionManager.created)) : Ordered (n + k) g' := by
  have origin : ∀ id after, g'.sessionManager.sessions id = some after →
      (∃ before j, j ≤ k ∧ g.sessionManager.sessions id = some before ∧ after.number = before.number ∧
        after.nextExpectedSeq = before.nextExpectedSeq + BitVec.ofNat 64 j) ∨
      (id = nodeId ∧ g.sessionManager.created ≤ after.number ∧ after.number < g'.sessionManager.created) := by
    intro id after found
    by_cases same : id = nodeId
    · subst same
      rcases here after found with ⟨before, old, number, next⟩ | bounds
      · exact .inl ⟨before, k, le_refl k, old, number, next⟩
      · exact .inr ⟨rfl, bounds⟩
    · exact .inl ⟨after, 0, Nat.zero_le k, others id after same found, rfl, by simp⟩
  constructor
  · exact sealed ▸ ordered.noReuse
  · exact sealed ▸ ordered.peerAck
  · rw [sealed]
    exact fun e member number same => (ordered.numbered e member number same).trans_le created
  · intro id after found
    rcases origin id after found with ⟨before, j, -, old, number, -⟩ | ⟨-, -, bound⟩
    · rw [number]
      exact (ordered.created id before old).trans_le created
    · exact bound
  · intro a b s t foundA foundB same
    rcases origin a s foundA with ⟨s', i, -, oldA, numberA, -⟩ | ⟨rfl, lowA, -⟩ <;>
      rcases origin b t foundB with ⟨t', j, -, oldB, numberB, -⟩ | ⟨rfl, lowB, -⟩
    · exact ordered.distinct a b s' t' oldA oldB (by rw [← numberA, ← numberB, same])
    · have := ordered.created a s' oldA
      omega
    · have := ordered.created b t' oldB
      omega
    · rfl
  · rw [sealed]
    intro id after found e member same
    rcases origin id after found with ⟨before, j, bound, old, number, next⟩ | ⟨-, low, -⟩
    · obtain ⟨i, positive, below, reaches⟩ := ordered.behind id before old e member (number ▸ same)
      refine ⟨i + j, by omega, by omega, ?_⟩
      rw [next, ← reaches, BitVec.ofNat_add, BitVec.add_assoc]
    · have := ordered.numbered e member after.number same
      omega

variable {nodeId : String}

theorem Ordered.of_within (ordered : Ordered n g) (within : Within nodeId g g') : Ordered n g' := by
  refine ordered.of_sessions (k := 0) within.1 within.2.created nodeId ?_ ?_
  · intro id after other found
    rwa [← within.2.others id other]
  · simpa using within.2.here

variable {session : Session}

theorem Ordered.of_accepted (ordered : Ordered n g)
    (found : g.sessionManager.getSession nodeId = some session) (accepted : Accepted nodeId session g g') :
    Ordered (n + 1) g' := by
  obtain ⟨sealed, created, others, after, present, number, next⟩ := accepted
  refine ordered.of_sessions sealed created.ge nodeId ?_ ?_
  · intro id current other found
    rwa [← others id other]
  · intro current foundCurrent
    rw [present, Option.some.injEq] at foundCurrent
    subst foundCurrent
    exact .inl ⟨session, found, number, next⟩

variable {e : Sealed}

theorem Ordered.push (ordered : Ordered n g) (sessions : g'.sessionManager = g.sessionManager)
    (sealed : g'.sealed = e :: g.sealed) (ack : e.header.msgType = msgPeerAck → e.plaintext = peerAckCbor)
    (compatible : ∀ b ∈ g.sealed, b.psk = e.psk → b.header.msgType = e.header.msgType →
      b.header.nonce = e.header.nonce → b.plaintext = e.plaintext)
    (session : ∀ number, e.session = some number → number < g.sessionManager.created ∧
      ∀ nodeId current, g.sessionManager.sessions nodeId = some current → current.number = number →
        0 < n ∧ e.header.nonce + 1 = current.nextExpectedSeq) : Ordered n g' := by
  constructor
  · rw [sealed]
    intro a memberA b memberB psk type nonce
    rcases List.mem_cons.mp memberA with rfl | oldA <;> rcases List.mem_cons.mp memberB with rfl | oldB
    · rfl
    · exact (compatible b oldB psk.symm type.symm nonce.symm).symm
    · exact compatible a oldA psk type nonce
    · exact ordered.noReuse a oldA b oldB psk type nonce
  · rw [sealed]
    exact List.forall_mem_cons.mpr ⟨ack, ordered.peerAck⟩
  · rw [sealed, sessions]
    exact List.forall_mem_cons.mpr ⟨fun number same => (session number same).1, ordered.numbered⟩
  · exact sessions ▸ ordered.created
  · exact sessions ▸ ordered.distinct
  · rw [sealed, sessions]
    intro nodeId current found
    refine List.forall_mem_cons.mpr ⟨?_, ordered.behind nodeId current found⟩
    intro same
    obtain ⟨positive, next⟩ := (session current.number same).2 nodeId current found rfl
    exact ⟨1, Nat.one_pos, positive, next⟩

theorem Ordered.mono (ordered : Ordered n g) : Ordered (n + 1) g :=
  { ordered with
    behind := by
      intro nodeId session found e member same
      obtain ⟨i, positive, bound, next⟩ := ordered.behind nodeId session found e member same
      exact ⟨i, positive, by omega, next⟩ }

-- A sequence number below the expected one has another value, since fewer than 2^64 frames lie between them.
theorem Ordered.unused (ordered : Ordered n g) (fits : n < 2 ^ 64)
    (found : g.sessionManager.getSession nodeId = some session) (member : e ∈ g.sealed)
    (same : e.session = some session.number) : e.header.nonce ≠ session.nextExpectedSeq := by
  intro equal
  obtain ⟨i, positive, bound, next⟩ := ordered.behind nodeId session found e member same
  have zero : BitVec.ofNat 64 i = 0 := by
    rw [← equal] at next
    simpa using next
  have := congrArg BitVec.toNat zero
  simp at this
  omega

theorem outcome_ordered {decoded : DecodedFrame} (ordered : Ordered n g)
    (fits : n < 2 ^ 64) (unrepeated : Unrepeated lib g inputs decoded) (outcome : Outcome lib inputs decoded g g') :
    Ordered (n + 1) g' := by
  cases outcome with
  | silent nodeId within => exact (ordered.of_within within).mono
  | accepted node session found accepted => exact ordered.of_accepted found accepted
  | peerAck psk keyHint sessions sealed =>
    refine (ordered.push sessions sealed (fun _ => rfl) ?_ (by simp)).mono
    intro b member _ type _
    exact ordered.peerAck b member type
  | diagReply phone payload keyHint request authentic sessions sealed =>
    have kind : msgDiagReply ≠ msgPeerAck := by decide
    refine (ordered.push sessions sealed (fun type => absurd type kind) ?_ (by simp)).mono
    intro b member psk type nonce
    exact unrepeated.diag request phone payload authentic b member psk type nonce
  | command node payload header cbor request authentic response sessions sealed =>
    have within : Within node.nodeId g { g' with sealed := g.sealed } := ⟨rfl, sessions⟩
    refine Ordered.mono ?_
    refine (ordered.of_within within).push rfl sealed ?_ ?_ (by simp)
    · intro type
      exact absurd (response.1.symm.trans type) (by decide)
    · intro b member psk type nonce
      have other := unrepeated.wake request node payload authentic b member psk (type.trans response.1)
      exact absurd (nonce.trans response.2) other
  | answer node payload session header cbor request authentic found expected response sessions sealed =>
    have accepted : Accepted node.nodeId session g { g' with sealed := g.sealed } := ⟨rfl, sessions⟩
    have advanced := ordered.of_accepted found accepted
    obtain ⟨after, present, number, next⟩ := sessions.here
    refine advanced.push rfl sealed ?_ ?_ ?_
    · intro type
      rcases response.1 with kind | kind <;> exact absurd (kind.symm.trans type) (by decide)
    · intro b member psk type nonce
      have kind : b.header.msgType = msgChunk ∨ b.header.msgType = msgAppDataReply := by
        rw [type]
        exact response.1
      have here := unrepeated.postWake request node payload session authentic found b member psk kind
        (nonce.trans response.2)
      exact absurd (nonce.trans (response.2.trans expected.symm)) (ordered.unused fits found member here)
    · intro _ same
      obtain rfl := Option.some.inj same
      refine ⟨number ▸ advanced.created node.nodeId after present, ?_⟩
      intro nodeId current foundCurrent sameNumber
      have here := advanced.distinct nodeId node.nodeId current after foundCurrent present (sameNumber.trans number.symm)
      subst here
      obtain rfl : after = current := Option.some.inj (present.symm.trans foundCurrent)
      exact ⟨Nat.succ_pos n, by rw [next, expected, response.2]⟩

theorem step_ordered {event : Event} (ordered : Ordered n g) (fits : n < 2 ^ 64)
    (unrepeated : event.Unrepeated lib g) : Ordered (n + 1) (g.step lib event) := by
  cases event with
  | frame inputs raw =>
    rcases processFrame_outcome lib inputs raw g with same | ⟨decoded, decodes, outcome⟩
    · rw [Gateway.step, same]
      exact ordered.mono
    · exact outcome_ordered ordered fits (unrepeated decoded decodes) outcome
  | wakeBlobReply inputs index =>
    have same : Same g (g.step lib (.wakeBlobReply inputs index)) :=
      ⟨wakeBlobReply_fixes (fun _ _ _ _ => rfl) lib inputs index g,
        wakeBlobReply_fixes (fun _ _ _ _ => rfl) lib inputs index g⟩
    exact (ordered.of_within (same.within "")).mono
  | admin action =>
    have kept : ∀ id session, (g.administer action).sessionManager.sessions id = some session →
        g.sessionManager.sessions id = some session := by
      intro id session found
      simp only [Gateway.administer] at found
      split at found
      · cases found
      · exact found
    refine Ordered.mono (ordered.of_sessions (k := 0) rfl (le_refl _) "" (fun id after _ => kept id after) ?_)
    exact fun after found => .inl ⟨after, kept "" after found, rfl, by simp⟩

theorem run_ordered {events : List Event} (ordered : Ordered n g) (fits : n + events.length ≤ 2 ^ 64)
    (unrepeated : AllUnrepeated lib g events) : Ordered (n + events.length) (g.run lib events) := by
  induction events generalizing n g with
  | nil => exact ordered
  | cons event events ih =>
    rw [List.length_cons] at fits
    have stepped := step_ordered ordered (by omega) unrepeated.1
    have rest := ih stepped (by omega) unrepeated.2
    rw [List.length_cons, Nat.add_comm events.length 1, ← Nat.add_assoc]
    exact rest

structure Started (g : Gateway) : Prop where
  sessions : ∀ nodeId, g.sessionManager.sessions nodeId = none
  sealed : g.sealed = []

theorem Started.ordered (started : Started g) : Ordered 0 g := by
  constructor <;> simp [NoReuse, started.sealed, started.sessions]

theorem gateway_never_reuses_nonce (lib : Libraries) (g : Gateway) (events : List Event) (started : Started g)
    (short : events.length ≤ 2 ^ 64) (unrepeated : AllUnrepeated lib g events) : NoReuse (g.run lib events).sealed :=
  (run_ordered started.ordered (by omega) unrepeated).noReuse

theorem smallGateway_started : Started smallGateway := ⟨fun _ => rfl, rfl⟩

theorem frame_unrepeated {raw : Bytes}
    (fresh : ∀ e ∈ g.sealed, e.header.nonce ≠ (FrameHeader.fromBytes (raw.take headerSize)).nonce) :
    (Event.frame inputs raw).Unrepeated lib g := by
  intro decoded decodes
  have header : decoded.header = FrameHeader.fromBytes (raw.take headerSize) := by
    unfold decodeFrame at decodes
    split at decodes
    · cases decodes
    split at decodes
    · cases decodes
    · cases decodes
      rfl
  rw [← header] at fresh
  constructor
  · exact fun _ _ _ _ e member _ _ => fresh e member
  · exact fun _ _ _ _ e member _ _ same => absurd same (fresh e member)
  · exact fun _ _ _ _ _ _ e member _ _ same => absurd same (fresh e member)

def smallRun : List Event :=
  [.frame smallInputs (smallWake 1), .frame smallInputs (smallFrame 5 (.appData [3]) 7),
    .frame smallInputs (smallFrame 3 (.diagRequest 1) 8), .frame smallInputs (smallWake 2)]

theorem gateway_never_reuses_nonce_small :
    (smallGateway.run plainLib smallRun).sealed.length = 4 ∧ NoReuse (smallGateway.run plainLib smallRun).sealed := by
  refine ⟨rfl, gateway_never_reuses_nonce plainLib smallGateway smallRun smallGateway_started (by decide) ?_⟩
  refine ⟨frame_unrepeated ?_, frame_unrepeated ?_, frame_unrepeated ?_, frame_unrepeated ?_, trivial⟩ <;> decide

instance (sealed : List Sealed) : Decidable (NoReuse sealed) :=
  inferInstanceAs (Decidable (∀ a ∈ sealed, ∀ b ∈ sealed, a.psk = b.psk → a.header.msgType = b.header.msgType →
    a.header.nonce = b.header.nonce → a.plaintext = b.plaintext))

theorem gateway_reuses_nonce :
    ¬NoReuse (smallGateway.run plainLib [.frame smallInputs (smallWake 1),
      .frame { smallInputs with random := some 6 } (smallWake 1)]).sealed ∧
    ¬NoReuse (smallGateway.run plainLib [.frame smallInputs (smallFrame 1 (.diagRequest 1) 8),
      .frame { smallInputs with rssi := some 200 } (smallFrame 1 (.diagRequest 1) 8)]).sealed ∧
    ¬NoReuse (smallGateway.run plainLib [.frame smallInputs (smallWake 1), .frame smallInputs (smallFrame 5 (.appData [3]) 7),
      .frame smallInputs (smallWake 2),
      .frame { smallInputs with sendData := fun _ _ => some ([2], 0) } (smallFrame 5 (.appData [3]) 7)]).sealed := by
  decide

end Sonde.Engine
