import Sonde.Bpf.Interpreter

namespace Sonde.Bpf
open Lib.Program BitVec SpillTracker List

variable {ω : Type} {env : Env ω}

inductive Allowed (env : Env ω) : Region → Prop
  | stack : Allowed env env.stackRegion
  | ctx : Allowed env env.ctxRegion
  | ctxPtr {field : ContextPointerField} (member : field ∈ env.ctxPtrs) : Allowed env field.region
  | descriptor {mapIndex : BitVec 32} {base endAddr : BitVec 64} (bound : mapIndex.toNat < env.maps.length) :
      Allowed env ⟨.mapDescriptor mapIndex, base, endAddr⟩
  | mapValue {map : MapRegion} {valueSize : BitVec 32} {base endAddr : BitVec 64} (member : map ∈ env.maps)
      (lower : map.dataStart ≤ base) (ordered : base ≤ endAddr) (upper : endAddr ≤ map.dataEnd) :
      Allowed env ⟨.mapValue valueSize, base, endAddr⟩

def TagAllowed (env : Env ω) (tag : Option Region) : Prop := ∀ region, tag = some region → Allowed env region

def Inside (env : Env ω) (addr : BitVec 64) (len : Nat) : Prop :=
  ∃ region, Allowed env region ∧ region.tag.isDescriptor = false ∧
    region.base ≤ addr ∧ addr.toNat + len ≤ region.endAddr.toNat

structure Confined (env : Env ω) (s : State ω) : Prop where
  regs : ∀ r, TagAllowed env (s.reg r).region
  spills : ∀ entry ∈ s.spillTracker.entries, Allowed env entry.region
  frames : ∀ frame ∈ s.callFrames, ∀ i, TagAllowed env (frame.saved i).region
  accesses : ∀ access ∈ s.accesses, Inside env access.addr access.len

structure Within (env : Env ω) (region : Region) (addr : BitVec 64) (len : Nat) : Prop where
  allowed : Allowed env region
  pointer : region.tag.isDescriptor = false
  lower : region.base ≤ addr
  upper : addr.toNat + len ≤ region.endAddr.toNat

variable {addr : BitVec 64} {len : Nat} {region : Region}

theorem Within.inside (within : Within env region addr len) : Inside env addr len :=
  ⟨region, within.allowed, within.pointer, within.lower, within.upper⟩

/-- A property of the memory and of the host state that stores to writable regions and helpers keep. -/
structure Stable (env : Env ω) (J : Mem → ω → Prop) : Prop where
  store : ∀ {region addr len val mem host}, Within env region addr len → region.tag ≠ .context → J mem host →
    J (mem.store addr len val) host
  helper : ∀ desc ∈ env.helpers, ∀ r1 r2 r3 r4 r5 mem host, J mem host →
    J (desc.func r1 r2 r3 r4 r5 mem host).2.1 (desc.func r1 r2 r3 r4 r5 mem host).2.2

structure Good (env : Env ω) (J : Mem → ω → Prop) (s : State ω) : Prop extends Confined env s where
  kept : J s.mem s.host

variable {J : Mem → ω → Prop}

theorem TagAllowed.none : TagAllowed env none := by
  intro region h
  cases h

theorem TagAllowed.some (h : Allowed env region) : TagAllowed env (some region) := by
  intro region' equal
  cases equal
  exact h

theorem TagAllowed.of_origin {tag a b : Option Region} (origin : tag = Option.none ∨ tag = a ∨ tag = b)
    (ha : TagAllowed env a) (hb : TagAllowed env b) : TagAllowed env tag := by
  rcases origin with rfl | rfl | rfl
  · exact .none
  · exact ha
  · exact hb

variable {entry : SpillEntry}

theorem setRegion_mem {offset : BitVec 16} {entries : List SpillEntry}
    (member : entry ∈ setRegion offset region entries) : entry.region = region ∨ entry ∈ entries := by
  induction entries with
  | nil => simp [setRegion] at member
  | cons head rest ih =>
    simp only [setRegion] at member
    split at member
    · rcases mem_cons.mp member with rfl | inRest
      · exact .inl rfl
      · exact .inr (mem_cons_of_mem _ inRest)
    · rcases mem_cons.mp member with rfl | inRest
      · exact .inr mem_cons_self
      · exact (ih inRest).imp_right (mem_cons_of_mem _)

variable {stackBase : BitVec 64} {tracker : SpillTracker}

theorem recordSpill_mem (member : entry ∈ (tracker.recordSpill stackBase addr region).entries) :
    entry.region = region ∨ entry ∈ tracker.entries := by
  simp only [recordSpill] at member
  split at member
  · exact .inr member
  split at member
  · exact setRegion_mem member
  split at member
  · rcases mem_append.mp member with old | new
    · exact .inr old
    · exact .inl (by rw [mem_singleton.mp new])
  · exact .inr member

theorem checkRestore_mem
    (h : tracker.checkRestore stackBase addr = some region) : ∃ entry ∈ tracker.entries, entry.region = region := by
  simp only [checkRestore] at h
  split at h
  · cases h
  split at h
  · cases h
  obtain ⟨entry, found, equal⟩ := Option.map_eq_some_iff.mp h
  exact ⟨entry, mem_of_find?_eq_some found, equal⟩

abbrev Safe {α : Type} (env : Env ω) (J : Mem → ω → Prop) (m : M ω α) (Q : α → Prop) : Prop := Keeps (Good env J) m Q

abbrev Stays {α : Type} (env : Env ω) (J : Mem → ω → Prop) (m : M ω α) : Prop := Safe env J m fun _ => True

theorem err_safe {α : Type} {e : BpfError} {Q : α → Prop} : Safe env J (err e : M ω α) Q := .stop

theorem getReg_safe (r : Reg) : Safe env J (getReg r) (fun v => TagAllowed env v.region) :=
  .read fun _ confined => confined.regs r

variable {r : Reg}

theorem setReg_safe {v : TaggedReg} (h : TagAllowed env v.region) : Stays env J (setReg r v) := by
  refine .change ?_
  intro s confined
  refine { confined with regs := ?_ }
  intro r'
  by_cases same : r' = r
  · subst same
    simpa using h
  · simpa [same] using confined.regs r'

theorem setReg_scalar_safe {v : BitVec 64} : Stays env J (setReg r (.scalar v)) := setReg_safe .none

variable {pc : Nat}

theorem setPc_safe : Stays env J (setPc pc) := .update (fun _ confined => { confined with }) trivial

theorem modifySpill_safe {f : SpillTracker → SpillTracker}
    (h : ∀ tracker, (∀ entry ∈ tracker.entries, Allowed env entry.region) →
      ∀ entry ∈ (f tracker).entries, Allowed env entry.region) : Stays env J (modifySpill f) :=
  .update (fun _ confined => { confined with spills := h _ confined.spills }) trivial

theorem readMem_safe (h : Inside env addr len) : Stays env J (readMem addr len) := by
  intro s confined
  refine ⟨{ confined with accesses := ?_ }, fun _ _ => trivial⟩
  intro access member
  rcases mem_cons.mp member with rfl | earlier
  · exact h
  · exact confined.accesses access earlier

variable {val : BitVec 64} (stable : Stable env J)

include stable in
theorem writeMem_safe (within : Within env region addr len)
    (writable : region.tag ≠ .context) : Stays env J (writeMem addr len val) := by
  refine .change ?_
  intro s confined
  refine { confined with accesses := ?_, kept := stable.store within writable confined.kept }
  intro access member
  rcases mem_cons.mp member with rfl | earlier
  · exact within.inside
  · exact confined.accesses access earlier

variable {a b : BitVec 64}

theorem addU64_safe : Stays env J (addU64 env a b) := .ite (fun _ => .stop) fun _ => .pure trivial

theorem subU64_safe : Stays env J (subU64 env a b) := .ite (fun _ => .stop) fun _ => .pure trivial

variable {off : BitVec 16} {baseReg : TaggedReg} (tag : TagAllowed env baseReg.region)

include tag in
theorem checkAccess_within (h : checkAccess baseReg off len pc = .ok (region, addr)) : Within env region addr len := by
  obtain ⟨pointer, -, noDescriptor, lower, upper⟩ := checkAccess_ok h
  exact ⟨tag region pointer, noDescriptor, lower, upper⟩

include tag in
theorem checkAccess_safe :
    Safe env J (ofExcept (checkAccess baseReg off len pc)) fun access => Within env access.1 access.2 len :=
  .ofExcept fun _ h => checkAccess_within tag h

variable {size : Size}

include tag in
theorem memLoad_safe : Stays env J (memLoad size baseReg off pc) :=
  .bind (checkAccess_safe tag) fun _ within => readMem_safe within.inside

include tag in
theorem memLoadSignExtend_safe : Stays env J (memLoadSignExtend size baseReg off pc) :=
  .bind (checkAccess_safe tag) fun _ within => .bind (readMem_safe within.inside) fun _ _ => .pure trivial

variable {src : Reg}

section
variable (stable : Stable env J)
include stable

theorem memStore_safe (tag : TagAllowed env baseReg.region) : Stays env J (memStore size baseReg off val pc) :=
  .bind (checkAccess_safe tag) fun _ within => .onlyIf (fun writable => writeMem_safe stable within writable) trivial

theorem memAtomic_safe {opc : BitVec 8} {op : BitVec 32} (tag : TagAllowed env baseReg.region) :
    Stays env J (memAtomic size opc baseReg off src op pc) := by
  refine .bind (checkAccess_safe tag) ?_
  rintro ⟨region, addr⟩ within
  refine .bind (readMem_safe within.inside) fun old _ => ?_
  refine .bind (getReg_safe src) fun srcReg _ => ?_
  have write {c : Prop} [Decidable c] (new : BitVec 64) (writable : c → ¬decide (region.tag = .context) = true) :
      Stays env J (onlyIf c (writeMem addr size.bytes new)) :=
    .onlyIf (fun holds => writeMem_safe stable within (by simpa using writable holds)) trivial
  have rmw (new : BitVec 64) : Stays env J (do
      onlyIf (¬decide (region.tag = .context)) (writeMem addr size.bytes new)
      onlyIf (decide (op &&& bpfAtomicFetch ≠ 0)) (setReg src (.scalar old))) :=
    .bind (write new id) fun _ _ => .onlyIf (fun _ => setReg_scalar_safe) trivial
  -- ADD, OR, AND and XOR, then XCHG, CMPXCHG and the unknown operations.
  refine .ite (fun _ => rmw _) fun _ => ?_
  refine .ite (fun _ => rmw _) fun _ => ?_
  refine .ite (fun _ => rmw _) fun _ => ?_
  refine .ite (fun _ => rmw _) fun _ => ?_
  refine .ite (fun _ => ?_) fun _ => ?_
  · exact .bind (write _ id) fun _ _ => setReg_scalar_safe
  refine .ite (fun _ => ?_) fun _ => err_safe
  refine .bind (getReg_safe 0) fun _ _ => ?_
  exact .bind (write _ And.left) fun _ _ => setReg_scalar_safe

end

/-! ## The arms of the loop -/

theorem charge_safe : Stays env J (charge env pc) := by
  refine .bind .observe fun _ _ => ?_
  refine .bind addU64_safe fun count _ => ?_
  exact .bind (.change fun _ confined => { confined with }) fun _ _ => .maybe err_safe

variable {map : MapRegion}

theorem mapAt_member {index : BitVec 32} {idx : Nat} (h : mapAt env pc index = .ok (idx, map)) :
    idx = index.toNat ∧ index.toNat < env.maps.length ∧ map ∈ env.maps := by
  unfold mapAt at h
  split at h
  · cases h
  cases found : env.maps[index.toNat]? with
  | none => simp [found] at h
  | some map' =>
    simp only [found, Except.ok.injEq, Prod.mk.injEq] at h
    obtain ⟨rfl, rfl⟩ := h
    obtain ⟨bound, equal⟩ := List.getElem?_eq_some_iff.mp found
    exact ⟨rfl, bound, equal ▸ getElem_mem bound⟩

theorem mapValueAt_allowed {offset : BitVec 32} {value : TaggedReg} (member : map ∈ env.maps)
    (h : mapValueAt pc map offset = .ok value) : TagAllowed env value.region := by
  simp only [mapValueAt] at h
  repeat' split at h
  all_goals try cases h
  apply TagAllowed.some
  refine Allowed.mapValue member ?_ ?_ ?_
  · rw [le_def, toNat_ofNat, Nat.mod_eq_of_lt (by omega)]
    omega
  · rw [le_def, toNat_ofNat, toNat_ofNat, Nat.mod_eq_of_lt (by omega),
      Nat.mod_eq_of_lt (by omega)]
    omega
  · rw [le_def, toNat_ofNat, Nat.mod_eq_of_lt (by omega)]
    omega

variable {insn : Insn} {dst : Reg}

theorem ldDwImm_safe : Stays env J (ldDwImm env insn dst src) := by
  refine .bind .observe fun pc _ => ?_
  refine .ite (fun _ => err_safe) fun _ => ?_
  cases getInsn env.prog pc with
  | none => exact .stop
  | some next =>
    refine .bind setPc_safe fun _ _ => ?_
    refine .bind charge_safe fun _ _ => ?_
    refine .ite (fun _ => setReg_scalar_safe) fun _ => ?_
    refine .ite (fun _ => ?_) fun _ => ?_
    · refine .bind (.ofExcept fun _ found => mapAt_member found) ?_
      rintro ⟨idx, map⟩ ⟨rfl, bound, _⟩
      apply setReg_safe
      apply TagAllowed.some
      apply Allowed.descriptor
      simpa using bound
    refine .ite (fun _ => ?_) fun _ => err_safe
    refine .bind (.ofExcept fun _ found => mapAt_member found) ?_
    rintro ⟨idx, map⟩ ⟨_, _, member⟩
    refine .bind (.ofExcept fun _ found => mapValueAt_allowed member found) ?_
    exact fun value allowed => setReg_safe allowed

theorem ldReg_safe : Stays env J (ldReg size insn dst src pc) :=
  .bind (getReg_safe src) fun _ tag => .bind (memLoad_safe tag) fun _ _ => setReg_scalar_safe

variable {s : State ω} {base : TaggedReg}

theorem restoredRegion_allowed (confined : Confined env s) : TagAllowed env (restoredRegion env s.spillTracker base off) := by
  intro region h
  unfold restoredRegion at h
  cases pointer : base.region with
  | none => simp [pointer] at h
  | some found =>
    simp only [pointer] at h
    split at h
    · obtain ⟨entry, member, rfl⟩ := checkRestore_mem h
      exact confined.spills entry member
    · split at h
      · obtain ⟨field, found, rfl⟩ := Option.map_eq_some_iff.mp h
        exact .ctxPtr (mem_of_find?_eq_some found)
      · cases h
    · split at h
      · obtain ⟨field, found, rfl⟩ := Option.map_eq_some_iff.mp h
        exact .ctxPtr (mem_of_find?_eq_some found)
      · cases h
    · cases h

theorem ldDwReg_safe : Stays env J (ldDwReg env insn dst src pc) := by
  refine .bind (getReg_safe src) fun base tag => ?_
  refine .bind (memLoad_safe tag) fun val _ => ?_
  refine .bind (.read fun s confined => restoredRegion_allowed confined.toConfined) ?_
  exact fun region allowed => setReg_safe allowed

theorem ldsxReg_safe : Stays env J (ldsxReg size insn dst src pc) :=
  .bind (getReg_safe src) fun _ tag => .bind (memLoadSignExtend_safe tag) fun _ _ => setReg_scalar_safe

theorem invalidateStack_safe : Stays env J (invalidateStack env size base off) :=
  .onlyIf (fun _ => modifySpill_safe fun _ allowed => allowed) trivial

include stable in
theorem stImm_safe : Stays env J (stImm env size insn dst pc) :=
  .bind (getReg_safe dst) fun _ tag => .bind (memStore_safe stable tag) fun _ _ => invalidateStack_safe

include stable in
theorem stReg_safe : Stays env J (stReg env size insn dst src pc) :=
  .bind (getReg_safe dst) fun _ tag =>
    .bind (getReg_safe src) fun _ _ => .bind (memStore_safe stable tag) fun _ _ => invalidateStack_safe

include stable in
theorem stDwReg_safe : Stays env J (stDwReg env insn dst src pc) := by
  refine .bind (getReg_safe dst) fun base baseTag => ?_
  refine .bind (getReg_safe src) fun value valueTag => ?_
  refine .bind (memStore_safe stable baseTag) fun _ _ => ?_
  cases pointer : value.region with
  | none => exact invalidateStack_safe
  | some region =>
    refine .ite (fun _ => .onlyIf (fun _ => ?_) trivial) fun _ => invalidateStack_safe
    apply modifySpill_safe
    intro tracker allowed entry member
    rcases recordSpill_mem member with equal | old
    · exact equal ▸ valueTag region pointer
    · exact allowed entry old

include stable in
theorem stWAtomic_safe : Stays env J (stWAtomic env insn dst src pc) :=
  .bind (getReg_safe dst) fun _ tag => .bind (memAtomic_safe stable tag) fun _ _ => invalidateStack_safe

include stable in
theorem stDwAtomic_safe : Stays env J (stDwAtomic env insn dst src pc) :=
  .bind (getReg_safe dst) fun _ tag => .bind (memAtomic_safe stable tag) fun _ _ => invalidateStack_safe

variable {source : Source}

theorem operand_safe : Safe env J (operand source insn src) fun v => TagAllowed env v.region := by
  cases source with
  | imm => exact .pure .none
  | reg => exact getReg_safe src

theorem setScalar_safe {result : Option (BitVec 64)} : Stays env J (setScalar insn dst pc result) := by
  cases result with
  | none => exact err_safe
  | some val => exact setReg_scalar_safe

variable {op : AluOp}

theorem execAlu32_safe : Stays env J (execAlu32 op source insn dst src pc) :=
  .bind (getReg_safe dst) fun _ _ => .bind operand_safe fun _ _ => setScalar_safe

theorem execSwap_safe {swap : Bool} : Stays env J (execSwap swap insn dst pc) :=
  .bind (getReg_safe dst) fun _ _ => setScalar_safe

theorem execAlu64_safe : Stays env J (execAlu64 op source insn dst src pc) := by
  refine .bind (getReg_safe dst) fun d dTag => ?_
  refine .bind operand_safe fun b bTag => ?_
  refine .bind (.ofExcept fun result computed => ?_) fun result allowed => setReg_safe allowed
  exact .of_origin (alu64_region computed) dTag bTag

theorem jump_safe {offset : Int} : Stays env J (jump env pc offset) :=
  .bind (.ofExcept fun _ _ => trivial) fun _ _ => setPc_safe

theorem execJmp_safe {op : JmpOp} : Stays env J (execJmp env op source insn dst src pc) :=
  .bind (getReg_safe dst) fun _ _ => .bind operand_safe fun _ _ => .onlyIf (fun _ => jump_safe) trivial

theorem execJmp32_safe {op : JmpOp} : Stays env J (execJmp32 env op source insn dst src pc) :=
  .bind (getReg_safe dst) fun _ _ => .bind operand_safe fun _ _ => .onlyIf (fun _ => jump_safe) trivial

/-! ## Calls -/

include stable in
theorem callFunc_safe {desc : HelperDescriptor ω} (member : desc ∈ env.helpers) : Stays env J (callFunc desc.func) :=
  fun s confined =>
    ⟨{ confined with kept := stable.helper desc member _ _ _ _ _ s.mem s.host confined.kept }, fun _ _ => trivial⟩

variable {result : BitVec 64}

theorem mapValueResult_allowed {mapArg : BitVec 8} {arg : TaggedReg}
    {r0 : TaggedReg} (h : mapValueResult env pc mapArg arg result = .ok r0) : TagAllowed env r0.region := by
  unfold mapValueResult at h
  split at h
  · cases h
    exact .none
  split at h
  · rename_i mapIndex base endAddr tag
    cases found : env.maps[mapIndex.toNat]? with
    | none => simp [found] at h
    | some map =>
      simp only [found] at h
      split at h
      · cases h
      split at h
      · cases h
      cases h
      apply TagAllowed.some
      refine Allowed.mapValue (mem_of_getElem? found) ?_ ?_ ?_
      · bv_omega
      · rw [le_def, toNat_ofNat, Nat.mod_eq_of_lt (by omega)]
        omega
      · rw [le_def, toNat_ofNat, Nat.mod_eq_of_lt (by omega)]
        omega
  · cases h

theorem helperResult_safe {ret : HelperReturn} :
    Safe env J (helperResult env pc ret result) fun v => TagAllowed env v.region := by
  cases ret with
  | scalar => exact .pure .none
  | mapValueOrNull mapArg =>
    simp only [helperResult]
    split
    · refine .bind (getReg_safe _) fun arg _ => ?_
      exact .ofExcept fun r0 computed => mapValueResult_allowed computed
    · exact err_safe

theorem clobber_safe : Stays env J (clobber : M ω Unit) := by
  refine .change ?_
  intro s confined
  refine { confined with regs := ?_ }
  intro r
  by_cases argument : 1 ≤ r.val ∧ r.val ≤ 5
  · simpa [argument, TaggedReg.scalar] using TagAllowed.none
  · simpa [argument] using confined.regs r

include stable in
theorem callHelper_safe : Stays env J (callHelper env insn pc) := by
  unfold callHelper
  cases found : env.helpers.find? (·.id = insn.imm) with
  | none => exact err_safe
  | some desc =>
    refine .bind (callFunc_safe stable (mem_of_find?_eq_some found)) fun result _ => ?_
    refine .bind helperResult_safe fun r0 allowed => ?_
    exact .bind (setReg_safe allowed) fun _ _ => clobber_safe

theorem callLocal_safe : Stays env J (callLocal env insn pc) := by
  refine .bind .observe fun depth _ => ?_
  refine .ite (fun _ => err_safe) fun _ => ?_
  refine .bind (.change ?_) fun _ _ => ?_
  · intro s confined
    refine { confined with frames := ?_ }
    intro frame member i
    rcases mem_cons.mp member with rfl | older
    · exact confined.regs (savedReg i)
    · exact confined.frames frame older i
  refine .bind (getReg_safe 10) fun r10 tag => ?_
  refine .bind subU64_safe fun top _ => ?_
  exact .bind (setReg_safe tag) fun _ _ => jump_safe

include stable in
theorem call_safe : Stays env J (call env insn src pc) :=
  .ite (fun _ => callHelper_safe stable) fun _ => .ite (fun _ => callLocal_safe) fun _ => err_safe

theorem exit_safe : Stays env J (exit env) := by
  -- The frame list is read with the frames' tags, since the update below restores them.
  refine .bind (.read (Q := fun frames => ∀ frame ∈ frames, ∀ i,
    TagAllowed env (frame.saved i).region) fun _ confined => confined.frames) fun frames tags => ?_
  cases frames with
  | nil => exact .bind (getReg_safe 0) fun _ _ => .pure trivial
  | cons frame rest =>
    refine .bind (.change ?_) fun _ _ => ?_
    · intro s confined
      refine { confined with regs := ?_, frames := fun f member => tags f (mem_cons_of_mem _ member) }
      intro r
      by_cases saved : 6 ≤ r.val ∧ r.val ≤ 9
      · simpa [saved] using tags frame mem_cons_self _
      · simpa [saved] using confined.regs r
    refine .bind (getReg_safe 10) fun r10 tag => ?_
    refine .bind addU64_safe fun top _ => ?_
    exact .bind (setReg_safe tag) fun _ _ => .pure trivial

/-! ## Whole runs -/

theorem proceed_safe {arm : M ω Unit} (h : Stays env J arm) : Stays env J (proceed arm) := .bind h fun _ _ => .pure trivial

include stable in
theorem execute_safe {o : Opcode} : Stays env J (execute env o insn dst src pc) := by
  cases o with
  | ldDwImm => exact proceed_safe ldDwImm_safe
  | ldReg size =>
    cases size with
    | dw => exact proceed_safe ldDwReg_safe
    | b | h | w => exact proceed_safe ldReg_safe
  | ldsxReg size => exact proceed_safe ldsxReg_safe
  | stImm size => exact proceed_safe (stImm_safe stable)
  | stReg size =>
    cases size with
    | dw => exact proceed_safe (stDwReg_safe stable)
    | b | h | w => exact proceed_safe (stReg_safe stable)
  | stWAtomic => exact proceed_safe (stWAtomic_safe stable)
  | stDwAtomic => exact proceed_safe (stDwAtomic_safe stable)
  | alu32 op source => exact proceed_safe execAlu32_safe
  | le | be | bswap => exact proceed_safe execSwap_safe
  | alu64 op source => exact proceed_safe execAlu64_safe
  | ja | ja32 => exact proceed_safe jump_safe
  | jmp op source => exact proceed_safe execJmp_safe
  | jmp32 op source => exact proceed_safe execJmp32_safe
  | call => exact proceed_safe (call_safe stable)
  | exit => exact exit_safe

include stable in
theorem iterate_safe : Stays env J (iterate env) := by
  refine .bind .observe fun pc _ => ?_
  refine .bind charge_safe fun _ _ => ?_
  cases getInsn env.prog pc with
  | none => exact .stop
  | some insn =>
    refine .bind setPc_safe fun _ _ => ?_
    split
    · cases opcode insn.opc with
      | none => exact err_safe
      | some o => exact execute_safe stable
    · exact err_safe

theorem initial_confined (mem : Mem) (host : ω) : Confined env (initial env mem host) := by
  refine ⟨?_, by simp [initial, new], by simp [initial], by simp [initial]⟩
  intro r region h
  simp only [initial, initialReg] at h
  split at h
  · split at h
    · cases h
    · cases h
      exact .ctx
  split at h
  · cases h
  split at h
  · cases h
    exact .stack
  · cases h

variable {mem : Mem} {host : ω} (start : J (mem.zero env.stackBase stackSize) host)

include start in
theorem initial_good : Good env J (initial env mem host) := { initial_confined mem host with kept := start }

include stable start in
theorem running_good (running : Running env mem host s) : Good env J s := by
  induction running with
  | start ready => exact initial_good start
  | turn previous inside action ih =>
    have kept := (iterate_safe stable _ ih).1
    rwa [action] at kept

include stable start in
theorem reached_good (reached : Reached env mem host s) : Good env J s := by
  rcases reached with running | ⟨before, running, _, rfl⟩
  · exact running_good stable start running
  · exact (iterate_safe stable before (running_good stable start running)).1

variable {P : ω → Prop}

def HelpersKeep (env : Env ω) (P : ω → Prop) : Prop :=
  ∀ desc ∈ env.helpers, ∀ r1 r2 r3 r4 r5 mem host, P host → P (desc.func r1 r2 r3 r4 r5 mem host).2.2

theorem executeProgram_keeps (helpers : HelpersKeep env P) {fuel : Nat} {final : State ω}
    {result : Except Stop (BitVec 64)} (hs : P host) (h : executeProgram env fuel mem host = some (result, final)) :
    P final.host := by
  have stable : Stable env fun _ host => P host := ⟨fun _ _ kept => kept, helpers⟩
  unfold executeProgram at h
  cases ready : prologue env with
  | error e =>
    rw [ready] at h
    cases h
    exact hs
  | ok _ =>
    rw [ready] at h
    exact (reached_good stable hs (loop_reached env (.start ready) h)).kept

theorem stable_true : Stable env fun _ _ => True := ⟨fun _ _ _ => trivial, fun _ _ _ _ _ _ _ _ _ _ => trivial⟩

theorem executeProgram_confined (env : Env ω) (mem : Mem) (host : ω) (s : State ω)
    (reached : Reached env mem host s) : Confined env s :=
  (reached_good stable_true trivial reached).toConfined

-- `*(u64 *)(r10 - 8) = r1; r3 = *(u64 *)(r10 - 8); exit` spills the context pointer and reloads it.
def spillEnv : Env Unit where
  prog := [0x7b, 0x1a, 0xf8, 0xff, 0, 0, 0, 0, 0x79, 0xa3, 0xf8, 0xff, 0, 0, 0, 0, 0x95, 0, 0, 0, 0, 0, 0, 0]
  ctxBase := 0x1000
  ctxLen := 16
  helpers := []
  maps := []
  readOnlyCtx := true
  instructionBudget := 3
  ctxPtrs := []
  stackBase := 0x8000
  overflowChecks := true

theorem spillEnv_finishes : (loop spillEnv 3 (initial spillEnv (fun _ => 0) ())).isSome := by decide +kernel

def spillRun : Except Stop (BitVec 64) × State Unit := Option.get _ spillEnv_finishes

theorem executeProgram_confined_spill : Reached spillEnv (fun _ => 0) () spillRun.2 ∧
      (spillRun.2.reg 3).region = some spillEnv.ctxRegion ∧
      spillRun.2.accesses = [⟨false, 0x8ff8, 8⟩, ⟨true, 0x8ff8, 8⟩] ∧ Confined spillEnv spillRun.2 := by
  have run := (Option.some_get spillEnv_finishes).symm
  have reached := loop_reached spillEnv (.start (by decide)) run
  exact ⟨reached, by decide +kernel, by decide +kernel, executeProgram_confined _ _ _ _ reached⟩

end Sonde.Bpf
