import Sonde.Gateway.Admin
import Sonde.Gateway.WakeRetry

/-!
# What removing a node leaves behind

`remove_node` deletes the row and the session of a node. Its queued commands and its deferred reply stay, and whoever is
registered under the same id gets them.
-/

namespace Sonde.Engine
open Lib Protocol Sonde.Gateway Gateway NodeMessage

inductive Call where
  | frame (inputs : Inputs) (raw : Bytes)
  | wakeBlobReply (inputs : Inputs) (index : Nat)
  | registerNode (faults : AdminFaults) (nodeId : String) (keyHint : Nat) (psk : Bytes)
  | removeNode (faults : AdminFaults) (nodeId : String)
  | factoryReset (faults : AdminFaults) (nodeId : String)
  | ingestProgram (connector : ConnectorLibraries) (faults : AdminFaults) (imageData : Bytes)
      (profile : VerificationProfile) (abiVersion : Option Nat) (sourceFilename : Option String)
  | assignProgram (faults : AdminFaults) (nodeId : String) (programHash : Bytes)
  | setSchedule (faults : AdminFaults) (nodeId : String) (intervalS : Nat)
  | queueReboot (faults : AdminFaults) (nodeId : String)
  | queueEphemeral (faults : AdminFaults) (nodeId : String) (programHash : Bytes)
  | applyNodeDesiredState (connector : ConnectorLibraries) (faults : AdminFaults) (nodeId : String)
      (desiredState : DesiredState)

def Call.run (lib : Libraries) (call : Call) (g : Gateway) : Gateway :=
  match call with
  | .frame inputs raw => g.step lib (.frame inputs raw)
  | .wakeBlobReply inputs index => g.step lib (.wakeBlobReply inputs index)
  | .registerNode faults nodeId keyHint psk => ((Engine.registerNode faults nodeId keyHint psk).alone g).2
  | .removeNode faults nodeId => ((Engine.removeNode faults nodeId).alone g).2
  | .factoryReset faults nodeId => ((Engine.factoryReset faults nodeId).alone g).2
  | .ingestProgram connector faults imageData profile abiVersion sourceFilename =>
    ((Engine.ingestProgram connector faults imageData profile abiVersion sourceFilename).alone g).2
  | .assignProgram faults nodeId programHash => ((assignProgramImpl faults nodeId programHash).alone g).2
  | .setSchedule faults nodeId intervalS => ((setScheduleImpl faults nodeId intervalS).alone g).2
  | .queueReboot faults nodeId => ((queueRebootImpl faults nodeId).alone g).2
  | .queueEphemeral faults nodeId programHash => ((queueEphemeralImpl faults nodeId programHash).alone g).2
  | .applyNodeDesiredState connector faults nodeId desiredState =>
    ((Engine.applyNodeDesiredState connector faults nodeId desiredState).alone g).2

def Gateway.after (lib : Libraries) (g : Gateway) (calls : List Call) : Gateway := calls.foldl (fun g call => call.run lib g) g

def SameCommands (lib : Libraries) (g g' : Gateway) : Prop :=
  ∀ calls inputs raw decoded, decodeFrame raw = .ok decoded → decoded.header.msgType = msgWake →
    (processFrame lib inputs raw (g.after lib calls)).1 = (processFrame lib inputs raw (g'.after lib calls)).1

def Gateway.withoutTraffic (nodeId : String) (g : Gateway) : Gateway :=
  { g with
    pendingCommands := Function.update g.pendingCommands nodeId []
    deferredReplies := Function.update g.deferredReplies nodeId none }

theorem Gateway.withoutTraffic_eq {nodeId : String} {g : Gateway} (queue : g.pendingCommands nodeId = [])
    (deferred : g.deferredReplies nodeId = none) : g.withoutTraffic nodeId = g := by
  simp [withoutTraffic, ← queue, ← deferred]

def Gateway.withoutNode (nodeId : String) (g : Gateway) : Gateway :=
  { g with nodes := g.nodes.erase nodeId, sessionManager := g.sessionManager.removeSession nodeId }

/-! ## A node that comes back -/

def noFaults : AdminFaults := fun _ => none

structure Rejoined (nodeId : String) (node : NodeRecord) (g g' : Gateway) : Prop where
  row : g'.nodes.lookup nodeId = some node
  only : ∀ id row, g'.nodes.lookup id = some row → id = nodeId
  session : g'.sessionManager.sessions nodeId = none
  queue : g'.pendingCommands nodeId = g.pendingCommands nodeId
  deferred : g'.deferredReplies nodeId = g.deferredReplies nodeId

variable {lib : Libraries} {nodeId : String} {g : Gateway}

theorem removeNode_alone (faults : AdminFaults) (nodeId : String) (g : Gateway) : (removeNode faults nodeId).alone g =
      match faults .getNode with
      | some e => (.error (storageErr e), g)
      | none =>
        match g.nodes.lookup nodeId with
        | none => (.error (.notFound s!"node `{nodeId}` not found"), g)
        | some _ =>
          match faults .deleteNode with
          | some e => (.error (storageErr e), g)
          | none => (.ok (), g.withoutNode nodeId) := by
  unfold removeNode getNode storageCall
  cases faults .getNode with
  | some e => rfl
  | none =>
    change (foundOr _ (g.nodes.lookup nodeId) >>= fun _ => _ : AdminTask Unit).alone g = _
    cases g.nodes.lookup nodeId with
    | none => rfl
    | some record =>
      cases faults .deleteNode with
      | some e => rfl
      | none => rfl

theorem removeNode_ok {faults : AdminFaults} {g' : Gateway}
    (removed : (removeNode faults nodeId).alone g = (.ok (), g')) : g' = g.withoutNode nodeId := by
  rw [removeNode_alone] at removed
  split at removed
  · cases removed
  split at removed
  · cases removed
  split at removed
  · cases removed
  · cases removed
    rfl

def returningKey : Bytes := List.replicate 32 0

def returningNode (nodeId : String) : NodeRecord := NodeRecord.new nodeId 0 (BitVec.ofNat 256 (ofBigEndian returningKey))

def ingestible (programHash : Bytes) : ConnectorLibraries where
  ingestElf _ profile := .ok ⟨programHash, [1], 1, profile, none, none, none⟩
  statusText _ := ""

def rejoining (nodeId : String) (programHash : Bytes) (others : List String) : List Call :=
  others.map (.removeNode noFaults) ++
    [.registerNode noFaults nodeId 0 returningKey, .ingestProgram (ingestible programHash) noFaults elfMagic .ephemeral none none]

structure Thinned (nodeId : String) (g g' : Gateway) : Prop where
  rows : ∀ id row, g'.nodes.lookup id = some row → g.nodes.lookup id = some row
  session : g.sessionManager.sessions nodeId = none → g'.sessionManager.sessions nodeId = none
  queue : g'.pendingCommands = g.pendingCommands
  deferred : g'.deferredReplies = g.deferredReplies

theorem Thinned.refl (nodeId : String) (g : Gateway) : Thinned nodeId g g := ⟨fun _ _ h => h, fun h => h, rfl, rfl⟩

theorem Thinned.trans {g' g'' : Gateway} (first : Thinned nodeId g g') (second : Thinned nodeId g' g'') :
    Thinned nodeId g g'' where
  rows id row found := first.rows id row (second.rows id row found)
  session none := second.session (first.session none)
  queue := second.queue.trans first.queue
  deferred := second.deferred.trans first.deferred

theorem removeCall_run (id : String) (g : Gateway) :
    (Call.removeNode noFaults id).run lib g = match g.nodes.lookup id with | none => g | some _ => g.withoutNode id := by
  simp only [Call.run, removeNode_alone, noFaults]
  cases g.nodes.lookup id <;> rfl

theorem removeCall_thinned (lib : Libraries) (nodeId id : String) (g : Gateway) :
    Thinned nodeId g ((Call.removeNode noFaults id).run lib g) ∧
      ((Call.removeNode noFaults id).run lib g).nodes.lookup id = none := by
  rw [removeCall_run]
  cases found : g.nodes.lookup id with
  | none => exact ⟨.refl nodeId g, found⟩
  | some row =>
    refine ⟨⟨fun other row found => ?_, fun none => ?_, rfl, rfl⟩, AList.lookup_erase id g.nodes⟩
    · by_cases same : other = id
      · subst same
        rw [show (g.withoutNode other).nodes.lookup other = none from AList.lookup_erase other g.nodes] at found
        cases found
      · rwa [show (g.withoutNode id).nodes.lookup other = g.nodes.lookup other from AList.lookup_erase_ne same] at found
    · by_cases same : nodeId = id
      · simp [withoutNode, SessionManager.removeSession, same]
      · simpa [withoutNode, SessionManager.removeSession, same] using none

theorem others_removed (lib : Libraries) (nodeId : String) (ids : List String) (g : Gateway) :
    Thinned nodeId g (g.after lib (ids.map (.removeNode noFaults))) ∧
      ∀ id ∈ ids, (g.after lib (ids.map (.removeNode noFaults))).nodes.lookup id = none := by
  induction ids generalizing g with
  | nil => exact ⟨.refl nodeId g, fun _ member => by cases member⟩
  | cons first rest ih =>
    obtain ⟨thinned, gone⟩ := removeCall_thinned lib nodeId first g
    obtain ⟨thinned', gone'⟩ := ih ((Call.removeNode noFaults first).run lib g)
    refine ⟨thinned.trans thinned', fun id member => ?_⟩
    rcases List.mem_cons.mp member with rfl | later
    · refine Option.eq_none_iff_forall_ne_some.mpr fun row found => ?_
      have earlier := thinned'.rows id row found
      rw [gone] at earlier
      cases earlier
    · exact gone' id later

theorem registerCall_run (named : nodeId ≠ "") (unknown : g.nodes.lookup nodeId = none) :
    (Call.registerNode noFaults nodeId 0 returningKey).run lib g =
      { g with nodes := g.nodes.insert nodeId (returningNode nodeId) } := by
  have register : registerNode noFaults nodeId 0 returningKey = (do
      let found ← .atomic ⟨none, .other⟩ (.read fun g => g.nodes.lookup nodeId)
      if found.isSome then .stop (.alreadyExists s!"node `{nodeId}` is already registered")
      else .atomic ⟨none, .registerNode (returningNode nodeId)⟩ (writeNode (returningNode nodeId)) : AdminTask Unit) := by
    simp only [registerNode, named]
    rfl
  simp only [Call.run, register]
  change ((if (g.nodes.lookup nodeId).isSome then .stop _ else .atomic _ (writeNode (returningNode nodeId)) :
    AdminTask Unit).alone g).2 = _
  rw [unknown]
  rfl

def knownProgram (programHash : Bytes) : ProgramRecord := ⟨programHash, [1], 1, .ephemeral, none, none, none⟩

theorem ingestCall_run (programHash : Bytes) (g : Gateway) :
    (Call.ingestProgram (ingestible programHash) noFaults elfMagic .ephemeral none none).run lib g =
      { g with programs := Function.update g.programs programHash (some (knownProgram programHash)) } := rfl

theorem rejoining_rejoined (lib : Libraries) (named : nodeId ≠ "") (programHash : Bytes) {others : List String}
    (all : ∀ id row, g.nodes.lookup id = some row → id ∈ others) (fresh : g.sessionManager.sessions nodeId = none) :
    Rejoined nodeId (returningNode nodeId) g (g.after lib (rejoining nodeId programHash others)) ∧
      (g.after lib (rejoining nodeId programHash others)).programs programHash = some (knownProgram programHash) := by
  obtain ⟨thinned, gone⟩ := others_removed lib nodeId others g
  set left := g.after lib (others.map (.removeNode noFaults)) with emptied
  have empty (id : String) : left.nodes.lookup id = none := by
    refine Option.eq_none_iff_forall_ne_some.mpr fun row found => ?_
    have absent := gone id (all id row (thinned.rows id row found))
    rw [absent] at found
    cases found
  have run : g.after lib (rejoining nodeId programHash others) =
      { left with
        nodes := left.nodes.insert nodeId (returningNode nodeId)
        programs := Function.update left.programs programHash (some (knownProgram programHash)) } := by
    rw [after, rejoining, List.foldl_append]
    change (Call.ingestProgram _ _ _ _ _ _).run lib ((Call.registerNode _ _ _ _).run lib left) = _
    rw [registerCall_run named (empty nodeId), ingestCall_run]
  rw [run]
  refine ⟨⟨AList.lookup_insert _, fun id row found => ?_, thinned.session fresh, congrFun thinned.queue nodeId,
    congrFun thinned.deferred nodeId⟩, Function.update_self ..⟩
  by_contra other
  rw [AList.lookup_insert_ne other, empty] at found
  cases found

/-! ## Its first WAKE -/

theorem selectFrom_nop {ephemeral assigned : Bytes → Option ProgramRecord} {nodeProgramHash : Bytes} {abi : Nat}
    {cmds : List PendingCommand} (known : ∀ programHash, cmds.findSome? ephemeralHash = some programHash →
      ephemeral programHash = some (knownProgram programHash))
    (nop : (selectFrom ephemeral assigned none nodeProgramHash abi cmds).1 = .nop) : cmds = [] := by
  unfold selectFrom selectEphemeral at nop
  cases first : cmds.findSome? ephemeralHash with
  | some programHash =>
    rw [first] at nop
    dsimp only at nop
    rw [known programHash first] at nop
    simp [knownProgram, abiMismatch, maxEphemeralSize, chunkCount, defaultChunkSize] at nop
  | none =>
    rw [first] at nop
    change (selectQueued cmds).1 = .nop at nop
    unfold selectQueued at nop
    split at nop
    · cases nop
    split at nop
    · cases nop
    · rename_i noSchedule noReboot
      refine List.eq_nil_iff_forall_not_mem.mpr fun command member => ?_
      cases command with
      | runEphemeral programHash => cases List.findSome?_eq_none_iff.mp first _ member
      | updateSchedule intervalS => cases List.findSome?_eq_none_iff.mp noSchedule _ member
      | reboot => exact noReboot member

def returningWake : WakeFields := ⟨1, [], 0, [0x31], none⟩

def returningPayload : Bytes := (wake 1 [] 0 [0x31] none).encode

section
variable {h : Gateway}

theorem returningWake_decodes (lib : Libraries) : decodeWake lib returningPayload = some returningWake := by
  unfold decodeWake returningPayload
  have valid : (wake 1 [] 0 [0x31] none).Valid := ⟨by decide, by decide, by decide, by decide, rfl, nofun⟩
  have decoded := decode_encode lib.reader valid
  rw [msgType] at decoded
  rw [decoded]
  rfl

theorem returningWake_sealed (lib : Libraries) (nodeId : String) : ∃ raw decoded, decodeFrame raw = .ok decoded ∧
    decoded.header = ⟨0, msgWake, 1⟩ ∧ openFrame lib.provider decoded (returningNode nodeId).psk = .ok returningPayload := by
  obtain ⟨decoded, decodes, header, opens⟩ := encodeFrame_opens (encodeFrame_ok.mpr ⟨show returningPayload.length ≤ _ by decide, rfl⟩)
  exact ⟨_, decoded, decodes, header, opens⟩

variable (rejoined : Rejoined nodeId (returningNode nodeId) g h)

include rejoined in
theorem Rejoined.answer {raw : Bytes} {decoded : DecodedFrame}
    (decodes : decodeFrame raw = .ok decoded) (header : decoded.header = ⟨0, msgWake, 1⟩)
    (opens : openFrame lib.provider decoded (returningNode nodeId).psk = .ok returningPayload) :
    (processFrame lib smallInputs raw h).1 = (encodeFrame lib.provider ⟨0, msgCommand, 1⟩
        (wakeResponse smallInputs (returningNode nodeId) 1 5 returningWake h).encode (returningNode nodeId).psk).mapError
          fun _ => .discarded := by
  have sends : Sends lib decoded (returningNode nodeId) returningPayload h :=
    ⟨rejoined.row, by rw [header]; rfl, opens, fun id row found _ _ => rejoined.only id row found⟩
  have fresh : (h.sessionManager.getSession (returningNode nodeId).nodeId).bind (retriedCommand decoded.header.nonce) = none := by
    rw [show h.sessionManager.getSession (returningNode nodeId).nodeId = none from rejoined.session]
    rfl
  rw [sends.processFrame_wake decodes (by rw [header]) rfl,
    handleWake_response (returningWake_decodes lib) (rfl : smallInputs.random = some 5) fresh, header]
  rfl

include rejoined in
theorem Rejoined.chosen : chosen smallInputs (returningNode nodeId) 1 returningWake h =
      selectFrom h.programs h.programs none [] 1 (g.pendingCommands nodeId) := by
  unfold Engine.chosen
  rw [show h.sessionManager.getSession (returningNode nodeId).nodeId = none from rejoined.session, ← rejoined.queue]
  rfl

include rejoined in
theorem Rejoined.silent (queue : g.pendingCommands nodeId = []) (deferred : g.deferredReplies nodeId = none) :
    wakeResponse smallInputs (returningNode nodeId) 1 5 returningWake h = .command 5 1000 .nop none := by
  have blob : h.deferredReplies (returningNode nodeId).nodeId = none := rejoined.deferred.trans deferred
  unfold wakeResponse chosenBlob
  rw [rejoined.chosen, queue, blob]
  rfl

include rejoined in
theorem Rejoined.nothing_waits {g' h' : Gateway}
    (known : ∀ programHash, (g.pendingCommands nodeId).findSome? ephemeralHash = some programHash →
      h.programs programHash = some (knownProgram programHash))
    (rejoined' : Rejoined nodeId (returningNode nodeId) g' h') (queue : g'.pendingCommands nodeId = [])
    (deferred : g'.deferredReplies nodeId = none)
    (same : ∀ raw decoded, decodeFrame raw = .ok decoded → decoded.header.msgType = msgWake →
      (processFrame lib smallInputs raw h).1 = (processFrame lib smallInputs raw h').1) :
    g.pendingCommands nodeId = [] ∧ g.deferredReplies nodeId = none := by
  obtain ⟨raw, decoded, decodes, header, opens⟩ := returningWake_sealed lib nodeId
  have answers := same raw decoded decodes (by rw [header])
  have plain : encodeFrame lib.provider ⟨0, msgCommand, 1⟩ (GatewayMessage.command 5 1000 .nop none).encode
      (returningNode nodeId).psk = .ok _ := encodeFrame_ok.mpr ⟨by decide, rfl⟩
  rw [rejoined.answer decodes header opens, rejoined'.answer decodes header opens, rejoined'.silent queue deferred,
    plain] at answers
  have encoded : (wakeResponse smallInputs (returningNode nodeId) 1 5 returningWake h).encode =
      (GatewayMessage.command 5 1000 .nop none).encode := by
    cases sent : encodeFrame lib.provider ⟨0, msgCommand, 1⟩
        (wakeResponse smallInputs (returningNode nodeId) 1 5 returningWake h).encode (returningNode nodeId).psk with
    | error e =>
      rw [sent] at answers
      cases answers
    | ok frame =>
      rw [sent] at answers
      cases answers
      exact encodeFrame_inj sent plain
  obtain ⟨nop, blob⟩ := GatewayMessage.encode_plain_nop encoded
  refine ⟨?_, ?_⟩
  · rw [rejoined.chosen] at nop
    exact selectFrom_nop known nop
  · rw [chosenBlob, if_pos nop] at blob
    exact rejoined.deferred.symm.trans blob

theorem forgotten_iff {faults : AdminFaults} {g' g₁ g₂ : Gateway} (lib : Libraries) (named : nodeId ≠ "")
    (alike : g.withoutTraffic nodeId = g'.withoutTraffic nodeId) (queue : g'.pendingCommands nodeId = [])
    (deferred : g'.deferredReplies nodeId = none) (removed : (removeNode faults nodeId).alone g = (.ok (), g₁))
    (removed' : (removeNode faults nodeId).alone g' = (.ok (), g₂)) :
    SameCommands lib g₁ g₂ ↔ g.pendingCommands nodeId = [] ∧ g.deferredReplies nodeId = none := by
  cases removeNode_ok removed
  cases removeNode_ok removed'
  rw [withoutTraffic_eq queue deferred] at alike
  subst alike
  constructor
  · intro same
    have all (id : String) (row : NodeRecord) (found : (g.nodes.erase nodeId).lookup id = some row) :
        id ∈ (g.nodes.erase nodeId).keys := AList.mem_keys.mpr (AList.lookup_isSome.mp (by rw [found]; rfl))
    have ended : (g.withoutNode nodeId).sessionManager.sessions nodeId = none := Function.update_self ..
    let programHash := ((g.pendingCommands nodeId).findSome? ephemeralHash).getD []
    obtain ⟨rejoined, known⟩ := rejoining_rejoined lib named programHash all ended
    obtain ⟨rejoined', -⟩ := rejoining_rejoined (g := (g.withoutTraffic nodeId).withoutNode nodeId) lib named programHash all
      ended
    refine rejoined.nothing_waits (fun first found => ?_) rejoined' queue deferred
      (same (rejoining nodeId programHash (g.nodes.erase nodeId).keys) smallInputs)
    obtain rfl : programHash = first := congrArg (·.getD []) found
    exact known
  · rintro ⟨queue, deferred⟩
    rw [withoutTraffic_eq queue deferred]
    exact fun _ _ _ _ _ _ => rfl

end

def waitingGateway : Gateway := { smallGateway with deferredReplies := Function.update (fun _ => none) "n" (some [1]) }

def rebootGateway : Gateway := { smallGateway with pendingCommands := Function.update (fun _ => []) "n" [.reboot] }

theorem forgotten_iff_waiting :
    ¬SameCommands plainLib (waitingGateway.withoutNode "n") (smallGateway.withoutNode "n") := by
  have alike : waitingGateway.withoutTraffic "n" = smallGateway.withoutTraffic "n" := by
    simp [withoutTraffic, waitingGateway, smallGateway]
  have removed : (removeNode noFaults "n").alone waitingGateway = (.ok (), waitingGateway.withoutNode "n") := rfl
  intro same
  cases ((forgotten_iff plainLib (by decide) alike rfl rfl removed rfl).mp same).2

theorem reboot_outlives_removal : rebootGateway.withoutTraffic "n" = smallGateway.withoutTraffic "n" ∧
    (removeNode noFaults "n").alone rebootGateway = (.ok (), rebootGateway.withoutNode "n") ∧
    (removeNode noFaults "n").alone smallGateway = (.ok (), smallGateway.withoutNode "n") ∧
    ¬SameCommands plainLib (rebootGateway.withoutNode "n") (smallGateway.withoutNode "n") := by
  refine ⟨by simp [withoutTraffic, rebootGateway, smallGateway], rfl, rfl, fun same => ?_⟩
  have answers := same [.registerNode noFaults "n" 0 returningKey] smallInputs
    (smallFrame 1 (.wake 1 [] 0 [0x31] none) 0) ⟨⟨0, msgWake, 1⟩, _⟩ rfl rfl
  have commands := congrArg Except.toOption answers
  revert commands
  decide +kernel

end Sonde.Engine
