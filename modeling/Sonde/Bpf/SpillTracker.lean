import Sonde.Bpf.Budget
import Sonde.Bpf.Footprint
import Sonde.Bpf.ReadOnlyContext

/-!
# The spill tracker

The tracker remembers the region of a pointer that was stored to an 8-byte slot of the stack. For each slot a turn either
stores nothing over it, and then leaves its bytes and its tag alone, or it does, and then the tag is gone unless the store
is a spill.
-/

namespace Sonde.Bpf
open Lib.Program SpillTracker Option List

variable {ω : Type} {env : Env ω} {mem : Mem} {host : ω}

def storedReg (env : Env ω) (s : State ω) : Option (TaggedReg × BitVec 64) := do
  let insn ← getInsn env.prog s.pc
  if h : opcode insn.opc = some (.stReg .dw) ∧ insn.dst ≤ 10 ∧ insn.src ≤ 10 then
    some (s.reg ⟨insn.src, by omega⟩, (s.reg ⟨insn.dst, by omega⟩).address insn.off)
  else none

def loadedReg (env : Env ω) (s : State ω) : Option (Reg × BitVec 64) := do
  let insn ← getInsn env.prog s.pc
  if h : opcode insn.opc = some (.ldReg .dw) ∧ insn.dst ≤ 10 ∧ insn.src ≤ 10 then
    some (⟨insn.dst, by omega⟩, (s.reg ⟨insn.src, by omega⟩).address insn.off)
  else none

def Touches (env : Env ω) (s : State ω) (slot : BitVec 64) : Prop :=
  ∃ addr len, storeTarget env s = some (addr, len) ∧ ∃ a : BitVec 64, (a - addr).toNat < len ∧ (a - slot).toNat < 8

def OnStack (env : Env ω) (a : BitVec 64) : Prop := (a - env.stackBase).toNat < stackSize

structure StackApart (env : Env ω) : Prop where
  ctx : ∀ a, InCtx env a → ¬OnStack env a
  maps : ∀ map ∈ env.maps, ∀ a, map.dataStart ≤ a → a < map.dataEnd → ¬OnStack env a
  fields : ∀ field ∈ env.ctxPtrs, ∀ a, field.region.base ≤ a → a < field.region.endAddr → ¬OnStack env a

def HelpersSpareStack (env : Env ω) : Prop :=
  ∀ desc ∈ env.helpers, ∀ r1 r2 r3 r4 r5 mem host a, OnStack env a → (desc.func r1 r2 r3 r4 r5 mem host).2.1 a = mem a

theorem StackApart.region (apart : StackApart env) {region : Region}
    (allowed : Allowed env region) (pointer : region.tag.isDescriptor = false) :
    region = env.stackRegion ∨ ∀ a, region.base ≤ a → a < region.endAddr → ¬OnStack env a := by
  cases allowed with
  | stack => exact .inl rfl
  | ctx =>
    refine .inr fun a lower upper => apart.ctx a ?_
    simp only [Env.ctxRegion] at lower upper
    simp only [InCtx]
    bv_omega
  | ctxPtr member => exact .inr fun a lower upper => apart.fields _ member a lower upper
  | descriptor bound => simp [RegionTag.isDescriptor] at pointer
  | mapValue member lower ordered upper =>
    refine .inr fun a above below => apart.maps _ member a ?_ ?_
    · exact BitVec.le_trans lower above
    · bv_omega

variable {off : BitVec 16} {len pc : Nat} {base : TaggedReg}

theorem StackApart.access (apart : StackApart env) (ready : prologue env = .ok ()) {region : Region} {addr : BitVec 64}
    (tag : TagAllowed env base.region) (ok : checkAccess base off len pc = .ok (region, addr)) :
    (base.region = some env.stackRegion ∧ (addr - env.stackBase).toNat + len ≤ stackSize) ∨
      ∀ a : BitVec 64, (a - addr).toNat < len → ¬OnStack env a := by
  obtain ⟨held, -, pointer, lower, upper⟩ := checkAccess_ok ok
  rcases apart.region (tag region held) pointer with rfl | misses
  · refine .inl ⟨held, ?_⟩
    have fits := (prologue_ok ready).1
    have size : stackSize = 4096 := rfl
    simp only [Env.stackRegion, size] at lower upper fits ⊢
    bv_omega
  · refine .inr fun a inside => misses a ?_ ?_
    · bv_omega
    · bv_omega

/-! ## One slot of the tracker -/

namespace SpillTracker
variable {tracker : SpillTracker} {base addr : BitVec 64} {slot : Nat}

def slotOffset (slot : Nat) : BitVec 16 := BitVec.ofNat 16 (8 * slot)

def tagAt (tracker : SpillTracker) (slot : Nat) : Option Region :=
  if tracker.bitmap slot then (tracker.entries.find? (·.stackOffset = slotOffset slot)).map (·.region) else none

def HasRoom (tracker : SpillTracker) (slot : Nat) : Prop :=
  tracker.entries.any (·.stackOffset = slotOffset slot) ∨ tracker.entries.length < maxSpillSlots

structure AtSlot (base addr : BitVec 64) (slot : Nat) : Prop where
  offset : (addr - base).toNat = 8 * slot
  bound : slot < stackSize / 8

variable (place : AtSlot base addr slot)

include place in
theorem AtSlot.slot_eq : (addr - base).toNat / 8 = slot := by
  rw [place.offset]
  omega

include place in
theorem AtSlot.offset_eq : (addr - base).setWidth 16 = slotOffset slot := by
  have offset := place.offset
  rw [slotOffset]
  bv_omega

variable {slot' : Nat}

theorem slotOffset_inj (bound : slot < stackSize / 8) (bound' : slot' < stackSize / 8)
    (same : slotOffset slot = slotOffset slot') : slot = slot' := by
  change slot < 512 at bound
  change slot' < 512 at bound'
  simp only [slotOffset] at same
  bv_omega

include place in
theorem checkRestore_tagAt : tracker.checkRestore base addr = tracker.tagAt slot := by
  have bound := place.bound
  simp only [checkRestore, place.slot_eq, place.offset_eq, tagAt]
  rw [if_neg (by omega)]
  cases tracker.bitmap slot <;> rfl

variable {offset : BitVec 16} {entries : List SpillEntry}

theorem find_setRegion_self {region : Region} (present : entries.any (·.stackOffset = offset)) :
    ((setRegion offset region entries).find? (·.stackOffset = offset)).map (·.region) = some region := by
  induction entries with
  | nil => simp at present
  | cons entry rest ih =>
    by_cases first : entry.stackOffset = offset
    · simp [setRegion, first]
    · have later : rest.any (·.stackOffset = offset) := by simpa [first] using present
      simpa [setRegion, first] using ih later

theorem find_setRegion_ne {other : BitVec 16} {region : Region}
    (apart : other ≠ offset) : ((setRegion offset region entries).find? (·.stackOffset = other)).map (·.region) =
      (entries.find? (·.stackOffset = other)).map (·.region) := by
  induction entries with
  | nil => rfl
  | cons entry rest ih =>
    by_cases first : entry.stackOffset = offset
    · simp [setRegion, first, apart.symm]
    · by_cases sought : entry.stackOffset = other
      · simp [setRegion, sought, apart]
      · simpa [setRegion, first, sought] using ih

include place in
theorem recordSpill_tagAt (region : Region) :
    tracker.HasRoom slot ∧ (tracker.recordSpill base addr region).tagAt slot = some region ∨
      ¬tracker.HasRoom slot ∧ (tracker.recordSpill base addr region).tagAt slot = none := by
  have bound := place.bound
  simp only [recordSpill, place.slot_eq, place.offset_eq]
  rw [if_neg (by omega)]
  by_cases present : tracker.entries.any (·.stackOffset = slotOffset slot)
  · rw [if_pos present]
    refine .inl ⟨.inl present, ?_⟩
    simpa [tagAt, setSlot] using find_setRegion_self present
  rw [if_neg present]
  by_cases free : tracker.entries.length < maxSpillSlots
  · rw [if_pos free]
    have absent : tracker.entries.find? (·.stackOffset = slotOffset slot) = none := by simpa using present
    exact .inl ⟨.inr free, by simp [tagAt, setSlot, find?_append, absent]⟩
  · rw [if_neg free]
    exact .inr ⟨not_or.mpr ⟨present, free⟩, by simp [tagAt, setSlot]⟩

include place in
theorem recordSpill_tagAt_ne (bound' : slot' < stackSize / 8) (apart : slot' ≠ slot) (region : Region) :
    (tracker.recordSpill base addr region).tagAt slot' = tracker.tagAt slot' := by
  have bound := place.bound
  have offsets : slotOffset slot' ≠ slotOffset slot := fun same => apart (slotOffset_inj bound' bound same)
  simp only [recordSpill, place.slot_eq, place.offset_eq]
  rw [if_neg (by omega)]
  split
  · simp [tagAt, setSlot, apart, find_setRegion_ne offsets]
  split
  · simp [tagAt, setSlot, apart, find?_append, offsets.symm]
  · simp [tagAt, setSlot, apart]

theorem invalidate_tagAt (inside : (addr - base).toNat + len ≤ stackSize) (positive : 0 < len)
    (bound : slot < stackSize / 8) : (tracker.invalidate base addr len).tagAt slot =
      if (addr - base).toNat < 8 * slot + 8 ∧ 8 * slot < (addr - base).toNat + len then none else tracker.tagAt slot := by
  have size : stackSize = 4096 := rfl
  have covered : ((addr - base).toNat / 8 ≤ slot ∧ slot ≤ ((addr - base).toNat + len - 1) / 8 ∧ slot < stackSize / 8) ↔
      (addr - base).toNat < 8 * slot + 8 ∧ 8 * slot < (addr - base).toNat + len := by
    omega
  have saturated : min ((addr - base).toNat + len) (2 ^ 64 - 1) = (addr - base).toNat + len := by omega
  simp only [invalidate, tagAt, saturated, if_neg (show ¬(addr - base).toNat + len = 0 by omega), covered]
  split
  · rfl
  · rfl

theorem invalidate_outside (outside : ¬(addr - base).toNat < stackSize) : tracker.invalidate base addr len = tracker := by
  have size : stackSize = 4096 := rfl
  cases tracker
  simp only [invalidate, mk.injEq, and_true, size]
  funext slot
  exact if_neg (by omega)

theorem recordSpill_offset {region : Region} {entry : SpillEntry}
    (member : entry ∈ (tracker.recordSpill base addr region).entries) :
    entry.stackOffset = (addr - base).setWidth 16 ∨ ∃ old ∈ tracker.entries, old.stackOffset = entry.stackOffset := by
  have renewed {offset : BitVec 16} {entries : List SpillEntry} (member : entry ∈ setRegion offset region entries) :
      ∃ old ∈ entries, old.stackOffset = entry.stackOffset := by
    induction entries with
    | nil => cases member
    | cons head rest ih =>
      simp only [setRegion] at member
      split at member
      · rcases mem_cons.mp member with rfl | later
        · exact ⟨head, mem_cons_self, rfl⟩
        · exact ⟨entry, mem_cons_of_mem _ later, rfl⟩
      · rcases mem_cons.mp member with rfl | later
        · exact ⟨entry, mem_cons_self, rfl⟩
        · obtain ⟨old, member, same⟩ := ih later
          exact ⟨old, mem_cons_of_mem _ member, same⟩
  simp only [recordSpill] at member
  split at member
  · exact .inr ⟨entry, member, rfl⟩
  split at member
  · exact .inr (renewed member)
  split at member
  · rcases mem_append.mp member with old | new
    · exact .inr ⟨entry, old, rfl⟩
    · rw [mem_singleton.mp new]
      exact .inl rfl
  · exact .inr ⟨entry, member, rfl⟩

def Aligned (tracker : SpillTracker) : Prop := ∀ entry ∈ tracker.entries, entry.stackOffset.toNat % 8 = 0

theorem checkRestore_aligned {region : Region} (aligned : tracker.Aligned)
    (restored : tracker.checkRestore base addr = some region) : ∃ slot, AtSlot base addr slot := by
  simp only [checkRestore] at restored
  split at restored
  · cases restored
  split at restored
  · cases restored
  obtain ⟨entry, found, -⟩ := map_eq_some_iff.mp restored
  have offset : entry.stackOffset = (addr - base).setWidth 16 := by simpa using find?_some found
  have multiple := aligned entry (mem_of_find?_eq_some found)
  refine ⟨(addr - base).toNat / 8, ?_, by omega⟩
  bv_omega

theorem recordSpill_outside {region : Region} (outside : ¬(addr - base).toNat < stackSize) :
    tracker.recordSpill base addr region = tracker := by
  unfold recordSpill
  rw [if_pos]
  omega

end SpillTracker

/-! ## What a turn does to the tracker -/

def Opcode.track (env : Env ω) (insn : Insn) (dst src : Reg) (s : State ω) (o : Opcode) : SpillTracker :=
  let base := s.reg dst
  let addr := base.address insn.off
  match o.stored with
  | none => s.spillTracker
  | some len =>
    if base.isStack then
      match (s.reg src).region with
      | some region =>
        if o = .stReg .dw ∧ (addr - env.stackBase).toNat % 8 = 0 then
          s.spillTracker.recordSpill env.stackBase addr region
        else s.spillTracker.invalidate env.stackBase addr len
      | none => s.spillTracker.invalidate env.stackBase addr len
    else s.spillTracker

variable {r : Option (BitVec 64)} {s s' : State ω}

theorem access_told {rest : Region × BitVec 64 → M ω Unit}
    (fixed : Leaves .tracker (ofExcept (checkAccess base off len pc) >>= rest)) {c : Prop} [Decidable c]
    {f : SpillTracker → SpillTracker}
    (run : proceed (ofExcept (checkAccess base off len pc) >>= rest >>= fun _ => onlyIf c (modifySpill f)) s = (.ok r, s')) :
    (∃ region t, checkAccess base off len pc = .ok (region, base.address off) ∧
        rest (region, base.address off) s = (.ok (), t) ∧ s'.mem = t.mem) ∧
      s'.spillTracker = if c then f s.spillTracker else s.spillTracker := by
  obtain ⟨_, u, arm, done⟩ := bind_ok run
  cases done
  obtain ⟨_, t, accessed, told⟩ := bind_ok arm
  have same : t.spillTracker = s.spillTracker := fixed.ok accessed
  obtain ⟨⟨region, addr⟩, _, checked, accessed⟩ := bind_ok accessed
  rw [ofExcept_run] at checked
  obtain ⟨passed, rfl⟩ := Prod.mk.inj checked
  obtain ⟨-, rfl, -⟩ := checkAccess_ok passed
  have tells : s' = if c then { t with spillTracker := f t.spillTracker } else t := by
    unfold onlyIf at told
    split at told
    all_goals
      cases told
      simp_all
  refine ⟨⟨region, t, passed, accessed, ?_⟩, ?_⟩
  · rw [tells]
    split <;> rfl
  · rw [tells, ← same]
    split <;> rfl

variable {insn : Insn} {dst src : Reg}

theorem stDwReg_told (run : execute env (.stReg .dw) insn dst src pc s = (.ok r, s')) :
    (∃ region, checkAccess (s.reg dst) insn.off 8 (pc - 1) = .ok (region, (s.reg dst).address insn.off) ∧
        (region.tag ≠ .context → s'.mem = s.mem.store ((s.reg dst).address insn.off) 8 (s.reg src).value)) ∧
      s'.spillTracker = (Opcode.stReg .dw).track env insn dst src s := by
  have told {f : SpillTracker → SpillTracker}
      (run : proceed (memStore .dw (s.reg dst) insn.off (s.reg src).value (pc - 1) >>= fun _ =>
        onlyIf (s.reg dst).isStack (modifySpill f)) s = (.ok r, s')) :
      (∃ region, checkAccess (s.reg dst) insn.off 8 (pc - 1) = .ok (region, (s.reg dst).address insn.off) ∧
          (region.tag ≠ .context → s'.mem = s.mem.store ((s.reg dst).address insn.off) 8 (s.reg src).value)) ∧
        s'.spillTracker = if (s.reg dst).isStack then f s.spillTracker else s.spillTracker := by
    obtain ⟨⟨region, t, checked, wrote, same⟩, told⟩ :=
      access_told (memStore_leaves (p := .tracker) nofun (s.reg src).value (pc - 1)) run
    refine ⟨⟨region, checked, fun writable => same.trans ?_⟩, told⟩
    simp only [onlyIf, if_pos writable] at wrote
    cases wrote
    rfl
  change proceed (memStore .dw (s.reg dst) insn.off (s.reg src).value (pc - 1) >>= fun _ =>
    spillOrInvalidate env (s.reg dst) (s.reg src) insn) s = _ at run
  unfold spillOrInvalidate at run
  simp only [Opcode.track, Opcode.stored, true_and]
  cases tag : (s.reg src).region with
  | none =>
    simp only [tag] at run
    exact told run
  | some spilled =>
    simp only [tag] at run
    by_cases aligned : ((s.reg dst).address insn.off - env.stackBase).toNat % 8 = 0
    · simp only [if_pos aligned] at run ⊢
      exact told run
    · simp only [if_neg aligned] at run ⊢
      exact told run

variable {o : Opcode}

theorem track_invalidates (stores : o.stored = some len) (other : o ≠ .stReg .dw) (insn : Insn)
    (dst src : Reg) (s : State ω) : o.track env insn dst src s =
      if (s.reg dst).isStack then s.spillTracker.invalidate env.stackBase ((s.reg dst).address insn.off) len
      else s.spillTracker := by
  simp only [Opcode.track, stores, other, false_and, if_false]
  cases (s.reg src).region <;> rfl

theorem execute_store (stores : o.stored = some len) (run : execute env o insn dst src pc s = (.ok r, s')) :
    (∃ region, checkAccess (s.reg dst) insn.off len (pc - 1) = .ok (region, (s.reg dst).address insn.off)) ∧
      s'.spillTracker = o.track env insn dst src s := by
  -- A store that is no spill goes on to `invalidate_stack`.
  have plain {size : Size} {rest : Region × BitVec 64 → M ω Unit} (wide : size.bytes = len) (other : o ≠ .stReg .dw)
      (fixed : Leaves .tracker (ofExcept (checkAccess (s.reg dst) insn.off size.bytes (pc - 1)) >>= rest))
      (run : proceed (ofExcept (checkAccess (s.reg dst) insn.off size.bytes (pc - 1)) >>= rest >>= fun _ =>
        invalidateStack env size (s.reg dst) insn.off) s = (.ok r, s')) :
      (∃ region, checkAccess (s.reg dst) insn.off len (pc - 1) = .ok (region, (s.reg dst).address insn.off)) ∧
        s'.spillTracker = o.track env insn dst src s := by
    obtain ⟨⟨region, t, checked, -⟩, told⟩ := access_told fixed run
    rw [track_invalidates stores other, ← wide]
    exact ⟨⟨region, checked⟩, told⟩
  cases o with
  | stImm size => exact plain (some.inj stores) nofun (memStore_leaves (p := .tracker) nofun _ _) run
  | stReg size =>
    cases size with
    | b | h | w => exact plain (some.inj stores) (by simp) (memStore_leaves (p := .tracker) nofun _ _) run
    | dw =>
      cases stores
      obtain ⟨⟨region, checked, -⟩, told⟩ := stDwReg_told run
      exact ⟨⟨region, checked⟩, told⟩
  | stWAtomic | stDwAtomic => exact plain (some.inj stores) nofun (memAtomic_leaves (p := .tracker) nofun nofun nofun _ _) run
  | _ => cases stores

inductive StoreTurn (env : Env ω) (s s' : State ω) : Prop
  | elsewhere (misses : ∀ addr len, storeTarget env s = some (addr, len) → ∀ a : BitVec 64, (a - addr).toNat < len →
        ¬OnStack env a)
      (told : s'.spillTracker = s.spillTracker)
  | spill {addr v : BitVec 64} {region : Region} {slot : Nat} (target : storeTarget env s = some (addr, 8))
      (stored : storedReg env s = some (⟨v, some region⟩, addr)) (place : AtSlot env.stackBase addr slot)
      (told : s'.spillTracker = s.spillTracker.recordSpill env.stackBase addr region)
      (bytes : s'.mem = s.mem.store addr 8 v)
  | overwrite {addr : BitVec 64} {len : Nat} (target : storeTarget env s = some (addr, len))
      (inside : (addr - env.stackBase).toNat + len ≤ stackSize) (positive : 0 < len)
      (other : ∀ v, storedReg env s = some (v, addr) → v.region.isSome → (addr - env.stackBase).toNat % 8 ≠ 0)
      (told : s'.spillTracker = s.spillTracker.invalidate env.stackBase addr len)

theorem stored_pos (stores : o.stored = some len) : 0 < len := by
  cases o with
  | stImm size | stReg size =>
    cases stores
    cases size <;> decide
  | stWAtomic | stDwAtomic =>
    cases stores
    decide
  | _ => cases stores

theorem track_outside (outside : ¬((s.reg dst).address insn.off - env.stackBase).toNat < stackSize) :
    o.track env insn dst src s = s.spillTracker := by
  unfold Opcode.track
  cases o.stored with
  | none => rfl
  | some len =>
    dsimp only
    split
    · cases (s.reg src).region with
      | none => exact invalidate_outside outside
      | some region =>
        dsimp only
        split
        · exact recordSpill_outside outside
        · exact invalidate_outside outside
    · rfl

theorem storedReg_iff (fetch : getInsn env.prog s.pc = some insn)
    (op : opcode insn.opc = some o) (named : insn.dst ≤ 10 ∧ insn.src ≤ 10) {stored : TaggedReg × BitVec 64} :
    storedReg env s = some stored ↔
      o = .stReg .dw ∧ (s.reg ⟨insn.src, Insn.src_lt named⟩, (s.reg ⟨insn.dst, Insn.dst_lt named⟩).address insn.off) = stored := by
  by_cases wide : o = .stReg .dw
  · simp [storedReg, fetch, op, named, wide]
  · simp [storedReg, fetch, op, wide]

theorem iterate_store (apart : StackApart env) (running : Running env mem host s)
    (action : iterate env s = (.ok none, s')) : StoreTurn env s s' := by
  obtain ⟨insn, o, dst, src, fetch, op, run⟩ := iterate_ok action
  cases stores : o.stored with
  | none =>
    have same := execute_left (p := .tracker) run stores
    refine .elsewhere (fun addr len target => ?_) same
    simp [storeTarget, fetch, op, stores] at target
  | some len =>
    have target : storeTarget env s = some ((s.reg ⟨insn.dst, by omega⟩).address insn.off, len) := by
      simp [storeTarget, fetch, op, stores, dst]
    obtain ⟨⟨region, checked⟩, told⟩ := execute_store stores run
    change checkAccess (s.reg ⟨insn.dst, by omega⟩) _ _ _ = .ok (_, (s.reg ⟨insn.dst, by omega⟩).address _) at checked
    change s'.spillTracker = o.track env insn ⟨insn.dst, by omega⟩ ⟨insn.src, by omega⟩ s at told
    have positive := stored_pos stores
    have tag := (executeProgram_confined env mem host s (.inl running)).regs ⟨insn.dst, by omega⟩
    rcases apart.access running.ready tag checked with ⟨own, inside⟩ | misses
    · have isStack : (s.reg ⟨insn.dst, by omega⟩).isStack = true := by
        rw [TaggedReg.isStack, own]
        rfl
      by_cases spills : o = .stReg .dw ∧ (s.reg ⟨insn.src, by omega⟩).region.isSome ∧
          ((s.reg ⟨insn.dst, by omega⟩).address insn.off - env.stackBase).toNat % 8 = 0
      · obtain ⟨rfl, tagged, aligned⟩ := spills
        cases stores
        obtain ⟨spilled, tag⟩ := isSome_iff_exists.mp tagged
        have place : AtSlot env.stackBase ((s.reg ⟨insn.dst, by omega⟩).address insn.off)
            (((s.reg ⟨insn.dst, by omega⟩).address insn.off - env.stackBase).toNat / 8) := by
          have size : stackSize = 4096 := rfl
          refine ⟨by omega, ?_⟩
          omega
        have stored := (storedReg_iff fetch op ⟨dst, src⟩).mpr ⟨rfl, rfl⟩
        obtain ⟨⟨region', checked', bytes⟩, -⟩ := stDwReg_told run
        have writable : region'.tag ≠ .context := by
          have held := (checkAccess_ok checked').1
          cases own.symm.trans held
          simp [Env.stackRegion]
        rw [show s.reg ⟨insn.src, by omega⟩ = ⟨(s.reg ⟨insn.src, by omega⟩).value, some spilled⟩ by rw [← tag]] at stored
        refine .spill target stored place (told.trans ?_) (bytes writable)
        simp only [Opcode.track, Opcode.stored, isStack, if_true, tag, aligned, and_self]
      · refine .overwrite target inside positive ?_ (told.trans ?_)
        · intro v stored tagged aligned
          obtain ⟨rfl, same⟩ := (storedReg_iff fetch op ⟨dst, src⟩).mp stored
          cases same
          exact spills ⟨rfl, tagged, aligned⟩
        · simp only [Opcode.track, stores, isStack, if_true]
          cases tag : (s.reg ⟨insn.src, by omega⟩).region with
          | none => rfl
          | some spilled =>
            dsimp only
            rw [if_neg]
            rintro ⟨rfl, aligned⟩
            exact spills ⟨rfl, by rw [tag]; rfl, aligned⟩
    · refine .elsewhere (fun addr len' target' => ?_) ?_
      · cases target.symm.trans target'
        exact misses
      · rw [told]
        exact track_outside (misses _ (by simpa using positive))

/-! ## One slot in one turn -/

section
open SpillTracker

variable {addr : BitVec 64} {slot : Nat}

theorem storedReg_target {v : TaggedReg} (stored : storedReg env s = some (v, addr)) :
    storeTarget env s = some (addr, 8) := by
  simp only [storedReg, bind_eq_bind, bind_eq_some_iff] at stored
  obtain ⟨insn, fetch, stored⟩ := stored
  split at stored
  · rename_i wide
    cases stored
    simp only [storeTarget, fetch, wide, bind_eq_bind, bind_some, Opcode.stored, dite_true]
    rfl
  · cases stored

theorem AtSlot.onStack (place : AtSlot env.stackBase addr slot) {a : BitVec 64} (inside : (a - addr).toNat < 8) :
    OnStack env a := by
  have offset := place.offset
  have bound : slot < 512 := place.bound
  change (a - env.stackBase).toNat < 4096
  bv_omega

theorem AtSlot.addr_eq {addr' : BitVec 64} (place : AtSlot env.stackBase addr slot)
    (place' : AtSlot env.stackBase addr' slot) : addr' = addr := by
  have offset := place.offset
  have offset' := place'.offset
  bv_omega

variable {target : BitVec 64}

theorem AtSlot.overlaps_iff (place : AtSlot env.stackBase addr slot)
    (inside : (target - env.stackBase).toNat + len ≤ stackSize) (positive : 0 < len) :
    (∃ a : BitVec 64, (a - target).toNat < len ∧ (a - addr).toNat < 8) ↔
      (target - env.stackBase).toNat < 8 * slot + 8 ∧ 8 * slot < (target - env.stackBase).toNat + len := by
  have offset := place.offset
  change (target - env.stackBase).toNat + len ≤ 4096 at inside
  constructor
  · rintro ⟨a, first, second⟩
    constructor
    · bv_omega
    · bv_omega
  · rintro ⟨below, above⟩
    by_cases later : 8 * slot ≤ (target - env.stackBase).toNat
    · exact ⟨target, by simpa using positive, by bv_omega⟩
    · exact ⟨addr, by bv_omega, by simp⟩

theorem touches_target (known : storeTarget env s = some (target, len)) :
    Touches env s addr ↔ ∃ a : BitVec 64, (a - target).toNat < len ∧ (a - addr).toNat < 8 := by
  constructor
  · rintro ⟨target', len', known', overlap⟩
    cases known.symm.trans known'
    exact overlap
  · intro overlap
    exact ⟨target, len, known, overlap⟩

theorem StoreTurn.untouched (turn : StoreTurn env s s') (place : AtSlot env.stackBase addr slot)
    (untouched : ¬Touches env s addr) : s'.spillTracker.tagAt slot = s.spillTracker.tagAt slot := by
  cases turn with
  | elsewhere misses told => rw [told]
  | @spill target v region slot' known stored place' told bytes =>
    rw [told]
    refine recordSpill_tagAt_ne place' place.bound ?_ region
    rintro rfl
    refine untouched ((touches_target known).mpr ⟨addr, ?_, by simp⟩)
    simp [AtSlot.addr_eq place place']
  | overwrite known inside positive other told =>
    rw [told, invalidate_tagAt inside positive place.bound, if_neg]
    rwa [← AtSlot.overlaps_iff place inside positive, ← touches_target known]

theorem StoreTurn.tagged (turn : StoreTurn env s s') (place : AtSlot env.stackBase addr slot) {region : Region}
    (tagged : s'.spillTracker.tagAt slot = some region) :
    ¬Touches env s addr ∧ s.spillTracker.tagAt slot = some region ∨
      ∃ v, storedReg env s = some (⟨v, some region⟩, addr) ∧ s'.mem = s.mem.store addr 8 v := by
  cases turn with
  | elsewhere misses told =>
    refine .inl ⟨?_, told ▸ tagged⟩
    rintro ⟨target, len, known, a, first, second⟩
    exact misses target len known a first (AtSlot.onStack place second)
  | @spill target v spilled slot' known stored place' told bytes =>
    rw [told] at tagged
    by_cases same : slot = slot'
    · subst same
      obtain rfl := AtSlot.addr_eq place place'
      rcases recordSpill_tagAt place' spilled with ⟨-, kept⟩ | ⟨-, lost⟩
      · cases kept.symm.trans tagged
        exact .inr ⟨v, stored, bytes⟩
      · cases lost.symm.trans tagged
    · rw [recordSpill_tagAt_ne place' place.bound same] at tagged
      refine .inl ⟨?_, tagged⟩
      have bound' := place'.bound
      have offset' := place'.offset
      rw [touches_target known, AtSlot.overlaps_iff place (by omega) (by decide)]
      omega
  | overwrite known inside positive other told =>
    rw [told, invalidate_tagAt inside positive place.bound] at tagged
    split at tagged
    · cases tagged
    · refine .inl ⟨?_, tagged⟩
      rwa [touches_target known, AtSlot.overlaps_iff place inside positive]

theorem StoreTurn.spilled (turn : StoreTurn env s s') (place : AtSlot env.stackBase addr slot) {v : BitVec 64}
    {region : Region} (stored : storedReg env s = some (⟨v, some region⟩, addr)) :
    s.spillTracker.HasRoom slot ∧ s'.spillTracker.tagAt slot = some region ∨
      ¬s.spillTracker.HasRoom slot ∧ s'.spillTracker.tagAt slot = none := by
  have target := storedReg_target stored
  cases turn with
  | elsewhere misses told => exact absurd (AtSlot.onStack place (by simp)) (misses addr 8 target addr (by simp))
  | spill known stored' place' told bytes =>
    cases stored'.symm.trans stored
    have slots := place'.slot_eq.symm.trans place.slot_eq
    subst slots
    rw [told]
    exact recordSpill_tagAt place' region
  | overwrite known inside positive other told =>
    cases known.symm.trans target
    have offset := place.offset
    exact absurd (by omega) (other _ stored rfl)

theorem StoreTurn.aligned (turn : StoreTurn env s s') (aligned : s.spillTracker.Aligned) : s'.spillTracker.Aligned := by
  cases turn with
  | elsewhere misses told => rwa [told]
  | spill known stored place told bytes =>
    rw [told]
    intro entry member
    rcases recordSpill_offset member with new | ⟨old, member, same⟩
    · have offset := place.offset
      bv_omega
    · rw [← same]
      exact aligned old member
  | overwrite known inside positive other told =>
    rw [told]
    exact aligned

theorem iterate_bytes (helpers : HelpersSpareStack env) (place : AtSlot env.stackBase addr slot)
    (action : iterate env s = (.ok none, s')) (untouched : ¬Touches env s addr) :
    s'.mem.load addr 8 = s.mem.load addr 8 := by
  have spares : TurnSpares env (fun a => (a - addr).toNat < 8) s := by
    refine ⟨fun target len known a inside hit => untouched ⟨target, len, known, a, hit, inside⟩, ?_⟩
    intro desc called a inside
    exact helpers desc (calledHelper_mem called) _ _ _ _ _ s.mem s.host a (AtSlot.onStack place inside)
  refine Mem.load_congr (by decide) fun a inside => ?_
  have left := iterate_leaves spares inside
  rwa [action] at left

theorem iterate_load (apart : StackApart env) (running : Running env mem host s)
    (action : iterate env s = (.ok none, s')) (load : loadedReg env s = some (dst, addr)) (onStack : OnStack env addr) :
    s'.reg dst = ⟨s.mem.load addr 8, s.spillTracker.checkRestore env.stackBase addr⟩ := by
  obtain ⟨insn, o, dstReg, srcReg, fetch, op, run⟩ := iterate_ok action
  simp only [loadedReg, fetch, op, bind_eq_bind, bind_some] at load
  split at load
  · rename_i wide
    obtain ⟨rfl⟩ := some.inj wide.1
    cases load
    obtain ⟨_, t, arm, done⟩ := bind_ok run
    cases done
    obtain ⟨base, _, read, arm⟩ := bind_ok arm
    cases read
    obtain ⟨val, u, loaded, arm⟩ := bind_ok arm
    obtain ⟨⟨region, target⟩, _, checked, loaded⟩ := bind_ok loaded
    rw [ofExcept_run] at checked
    obtain ⟨passed, rfl⟩ := Prod.mk.inj checked
    obtain ⟨-, rfl, -⟩ := checkAccess_ok passed
    cases loaded
    obtain ⟨restored, _, read, arm⟩ := bind_ok arm
    cases read
    cases arm
    have tag := (executeProgram_confined env mem host s (.inl running)).regs ⟨insn.src, by omega⟩
    have own : (s.reg ⟨insn.src, by omega⟩).region = some env.stackRegion := by
      rcases apart.access running.ready tag passed with ⟨own, -⟩ | misses
      · exact own
      · have first (a : BitVec 64) : (a - a).toNat < Size.dw.bytes := by
          rw [BitVec.sub_self]
          decide
        exact absurd onStack (misses _ (first _))
    refine (Function.update_self ..).trans ?_
    simp only [restoredRegion, State.fetched, own, Env.stackRegion]
    rfl
  · cases load

end

end Sonde.Bpf
