import Sonde.Bpf.SpillTracker

/-!
# Spilled pointers over whole runs

A reload that gives a tag gives the register of the latest store to its slot. The converse needs a free place in the table
at the time of the spill, since an overwritten slot keeps its entry.
-/

namespace Sonde.Bpf
open Option List

variable {ω : Type} {env : Env ω} {mem : Mem} {host : ω}

def stateAt (env : Env ω) (mem : Mem) (host : ω) : Nat → Option (State ω)
  | 0 => if prologue env = .ok () then some (initial env mem host) else none
  | n + 1 =>
    (stateAt env mem host n).bind fun s =>
      if s.pc < env.numInsns then
        match iterate env s with
        | (.ok none, s') => some s'
        | _ => none
      else none

theorem stateAt_succ {n : Nat} {s' : State ω} (later : stateAt env mem host (n + 1) = some s') :
    ∃ s, stateAt env mem host n = some s ∧ s.pc < env.numInsns ∧ iterate env s = (.ok none, s') := by
  obtain ⟨s, here, later⟩ := bind_eq_some_iff.mp later
  split at later
  · rename_i inside
    split at later
    · rename_i s'' action
      cases later
      exact ⟨s, here, inside, action⟩
    · cases later
  · cases later

theorem stateAt_earlier {m n : Nat} {s : State ω} (before : m ≤ n) (here : stateAt env mem host n = some s) :
    ∃ t, stateAt env mem host m = some t := by
  induction before generalizing s with
  | refl => exact ⟨s, here⟩
  | step _ ih =>
    obtain ⟨_, earlier, -⟩ := stateAt_succ here
    exact ih earlier

theorem stateAt_running {n : Nat} {s : State ω} (here : stateAt env mem host n = some s) : Running env mem host s := by
  induction n generalizing s with
  | zero =>
    simp only [stateAt] at here
    split at here
    · cases here
      exact .start ‹_›
    · cases here
  | succ n ih =>
    obtain ⟨before, earlier, inside, action⟩ := stateAt_succ here
    exact (ih earlier).turn inside action

def Untouched (env : Env ω) (mem : Mem) (host : ω) (m n : Nat) (slot : BitVec 64) : Prop :=
  ∀ k u, m < k → k < n → stateAt env mem host k = some u → ¬Touches env u slot

/-! ## Whole runs -/

section
open SpillTracker

/-- Each tagged slot has been spilled with its tag and its bytes, and left alone since. -/
structure Spilled (env : Env ω) (mem : Mem) (host : ω) (n : Nat) (s : State ω) : Prop where
  aligned : s.spillTracker.Aligned
  tags : ∀ addr slot region, AtSlot env.stackBase addr slot → s.spillTracker.tagAt slot = some region →
    ∃ m t, m < n ∧ stateAt env mem host m = some t ∧
      storedReg env t = some (⟨s.mem.load addr 8, some region⟩, addr) ∧ Untouched env mem host m n addr

theorem stateAt_spilled (apart : StackApart env) (helpers : HelpersSpareStack env) {n : Nat} {s : State ω}
    (here : stateAt env mem host n = some s) : Spilled env mem host n s := by
  induction n generalizing s with
  | zero =>
    have start : s = initial env mem host := by
      simp only [stateAt] at here
      split at here
      · exact (some.inj here).symm
      · cases here
    subst start
    exact ⟨forall_mem_nil _, fun _ _ _ _ tagged => by cases tagged⟩
  | succ n ih =>
    obtain ⟨before, earlier, -, action⟩ := stateAt_succ here
    have turn := iterate_store apart (stateAt_running earlier) action
    have known := ih earlier
    refine ⟨turn.aligned known.aligned, fun addr slot region place tagged => ?_⟩
    rcases turn.tagged place tagged with ⟨untouched, old⟩ | ⟨v, stored, bytes⟩
    · obtain ⟨m, t, older, spilled, stored, since⟩ := known.tags addr slot region place old
      refine ⟨m, t, by omega, spilled, ?_, fun k u after upTo state => ?_⟩
      · rw [iterate_bytes helpers place action untouched]
        exact stored
      · rcases Nat.lt_succ_iff_lt_or_eq.mp upTo with sooner | rfl
        · exact since k u after sooner state
        · cases earlier.symm.trans state
          exact untouched
    · refine ⟨n, before, by omega, earlier, ?_, fun k u after upTo => by omega⟩
      have loaded : s.mem.load addr 8 = v := by
        rw [bytes, Mem.load_store (by decide)]
        simp
      rw [loaded]
      exact stored

theorem untouched_tagAt (apart : StackApart env) {m n : Nat} {addr : BitVec 64} {slot : Nat} {s t : State ω}
    (place : AtSlot env.stackBase addr slot) (before : m < n) (spilled : stateAt env mem host (m + 1) = some t)
    (untouched : Untouched env mem host m n addr) (here : stateAt env mem host n = some s) :
    s.spillTracker.tagAt slot = t.spillTracker.tagAt slot := by
  induction n generalizing s with
  | zero => omega
  | succ n ih =>
    rcases Nat.lt_succ_iff_lt_or_eq.mp before with sooner | rfl
    · obtain ⟨earlierState, earlier, -, action⟩ := stateAt_succ here
      have turn := iterate_store apart (stateAt_running earlier) action
      rw [turn.untouched place (untouched n _ sooner (by omega) earlier)]
      exact ih sooner (fun k u after upTo => untouched k u after (by omega)) earlier
    · cases spilled.symm.trans here
      rfl

theorem spill_sound (env : Env ω) (mem : Mem) (host : ω) (apart : StackApart env) (helpers : HelpersSpareStack env)
    (n : Nat) (s s' : State ω) (dst : Reg) (addr : BitVec 64) (here : stateAt env mem host n = some s)
    (next : stateAt env mem host (n + 1) = some s') (load : loadedReg env s = some (dst, addr))
    (onStack : OnStack env addr) (tagged : (s'.reg dst).region.isSome) : (addr - env.stackBase).toNat % 8 = 0 ∧
      ∃ m t, m < n ∧ stateAt env mem host m = some t ∧ storedReg env t = some (s'.reg dst, addr) ∧
        Untouched env mem host m n addr := by
  obtain ⟨_, here', -, action⟩ := stateAt_succ next
  cases here.symm.trans here'
  have loaded := iterate_load apart (stateAt_running here) action load onStack
  have known := stateAt_spilled apart helpers here
  rw [loaded] at tagged ⊢
  obtain ⟨region, restored⟩ := isSome_iff_exists.mp tagged
  obtain ⟨slot, place⟩ := checkRestore_aligned known.aligned restored
  have offset := place.offset
  refine ⟨by omega, ?_⟩
  simp only at restored
  rw [restored]
  exact known.tags addr slot region place (checkRestore_tagAt place ▸ restored)

theorem spill_restored_iff (env : Env ω) (mem : Mem) (host : ω) (apart : StackApart env) (m n : Nat) (t s s' : State ω)
    (dst : Reg) (v addr : BitVec 64) (region : Region) (before : m < n) (spilled : stateAt env mem host m = some t)
    (stored : storedReg env t = some (⟨v, some region⟩, addr)) (onStack : OnStack env addr)
    (aligned : (addr - env.stackBase).toNat % 8 = 0) (untouched : Untouched env mem host m n addr)
    (here : stateAt env mem host n = some s) (next : stateAt env mem host (n + 1) = some s')
    (load : loadedReg env s = some (dst, addr)) :
    (s'.reg dst).region = some region ↔ t.spillTracker.HasRoom ((addr - env.stackBase).toNat / 8) := by
  obtain ⟨_, here', -, action⟩ := stateAt_succ next
  cases here.symm.trans here'
  have place : AtSlot env.stackBase addr ((addr - env.stackBase).toNat / 8) := by
    have size : stackSize = 4096 := rfl
    rw [OnStack, size] at onStack
    exact ⟨by omega, by omega⟩
  obtain ⟨after, later⟩ := stateAt_earlier before here
  obtain ⟨_, spilled', -, spills⟩ := stateAt_succ later
  cases spilled.symm.trans spilled'
  have kept := untouched_tagAt apart place before later untouched here
  rw [iterate_load apart (stateAt_running here) action load onStack, checkRestore_tagAt place, kept]
  rcases (iterate_store apart (stateAt_running spilled) spills).spilled place stored with ⟨room, held⟩ | ⟨full, lost⟩
  · exact iff_of_true held room
  · refine iff_of_false (fun held => ?_) full
    cases lost.symm.trans held

end

/-! ### A reload, and a table full of dead entries -/

theorem spillEnv_apart : StackApart spillEnv := by
  refine ⟨fun a inCtx onStack => ?_, forall_mem_nil _, forall_mem_nil _⟩
  change (a - 0x1000).toNat < 16 at inCtx
  change (a - 0x8000).toNat < 4096 at onStack
  bv_omega

theorem spillEnv_states :
    ∃ t s s', stateAt spillEnv (fun _ => 0) () 0 = some t ∧ stateAt spillEnv (fun _ => 0) () 1 = some s ∧
      stateAt spillEnv (fun _ => 0) () 2 = some s' ∧ t.spillTracker.entries = [] ∧
      storedReg spillEnv t = some (⟨0x1000, some spillEnv.ctxRegion⟩, 0x8ff8) ∧
      loadedReg spillEnv s = some (3, 0x8ff8) ∧ s'.reg 3 = ⟨0x1000, some spillEnv.ctxRegion⟩ := by
  obtain ⟨s', last⟩ : ∃ s', stateAt spillEnv (fun _ => 0) () 2 = some s' := isSome_iff_exists.mp (by decide +kernel)
  obtain ⟨s, here⟩ := stateAt_earlier (Nat.le_succ 1) last
  obtain ⟨t, first⟩ := stateAt_earlier (Nat.zero_le 2) last
  have facts :
      ((stateAt spillEnv (fun _ => 0) () 0).map fun t => (t.spillTracker.entries, storedReg spillEnv t)) =
          some ([], some (⟨0x1000, some spillEnv.ctxRegion⟩, 0x8ff8)) ∧
        (stateAt spillEnv (fun _ => 0) () 1).map (loadedReg spillEnv) = some (some (3, 0x8ff8)) ∧
        (stateAt spillEnv (fun _ => 0) () 2).map (·.reg 3) = some ⟨0x1000, some spillEnv.ctxRegion⟩ := by
    decide +kernel
  rw [first, here, last] at facts
  simp only [map_some, some.injEq, Prod.mk.injEq] at facts
  exact ⟨t, s, s', first, here, last, facts.1.1, facts.1.2, facts.2.1, facts.2.2⟩

theorem spill_sound_reload :
    ∃ s', stateAt spillEnv (fun _ => 0) () 2 = some s' ∧ s'.reg 3 = ⟨0x1000, some spillEnv.ctxRegion⟩ ∧
      ∃ m t, m < 1 ∧ stateAt spillEnv (fun _ => 0) () m = some t ∧ storedReg spillEnv t = some (s'.reg 3, 0x8ff8) ∧
        Untouched spillEnv (fun _ => 0) () m 1 0x8ff8 := by
  obtain ⟨t, s, s', first, here, last, -, stored, load, tagged⟩ := spillEnv_states
  refine ⟨s', last, tagged, ?_⟩
  exact (spill_sound spillEnv (fun _ => 0) () spillEnv_apart (forall_mem_nil _) 1 s s' 3 0x8ff8 here last load
    (show _ < stackSize by decide) (by rw [tagged]; rfl)).2

theorem spill_restored_reload :
    ∃ s', stateAt spillEnv (fun _ => 0) () 2 = some s' ∧ (s'.reg 3).region = some spillEnv.ctxRegion := by
  obtain ⟨t, s, s', first, here, last, empty, stored, load, -⟩ := spillEnv_states
  refine ⟨s', last, ?_⟩
  refine (spill_restored_iff spillEnv (fun _ => 0) () spillEnv_apart 0 1 t s s' 3 0x1000 0x8ff8 spillEnv.ctxRegion
    (by decide) first stored (show _ < stackSize by decide) (by decide) ?_ here last load).mpr ?_
  · exact fun k u after upTo => by omega
  · refine .inr ?_
    rw [empty]
    decide

def Live (env : Env ω) (mem : Mem) (host : ω) (n : Nat) (addr : BitVec 64) : Prop :=
  ∃ m t v region, m < n ∧ stateAt env mem host m = some t ∧ storedReg env t = some (⟨v, some region⟩, addr) ∧
    Untouched env mem host m n addr

-- Spills of r10 to the slots 1 to 32 from the top, a store over slot 1, a spill to slot 33 and its reload into r3.
def reusesSlots : Env Unit :=
  let off (slot : Nat) : List (BitVec 8) :=
    [(BitVec.ofInt 16 (-8 * slot)).setWidth 8, (BitVec.ofInt 16 (-8 * slot) >>> 8).setWidth 8, 0, 0, 0, 0]
  let spill (slot : Nat) : List (BitVec 8) := [0x7b, 0xaa] ++ off slot
  { spillEnv with
    prog := (range 32).flatMap (fun i => spill (i + 1)) ++ [0x7a, 0x0a] ++ off 1 ++ spill 33 ++ [0x79, 0xa3] ++ off 33 ++
      [0x95, 0, 0, 0, 0, 0, 0, 0]
    instructionBudget := 100 }

def slotAddr (slot : Nat) : BitVec 64 := 0x9000 - 8 * BitVec.ofNat 64 slot

theorem reusesSlots_stores : (stateAt reusesSlots (fun _ => 0) () 36).isNone ∧
      (∀ m < 36, ((stateAt reusesSlots (fun _ => 0) () m).bind (storedReg reusesSlots)).map (·.2) =
        if m < 32 then some (slotAddr (m + 1)) else if m = 33 then some (slotAddr 33) else none) ∧
      (stateAt reusesSlots (fun _ => 0) () 32).bind (storeTarget reusesSlots) = some (slotAddr 1, 8) := by
  decide +kernel

theorem reusesSlots_live {n : Nat} {s : State Unit} (here : stateAt reusesSlots (fun _ => 0) () n = some s) :
    ∃ slots : List (BitVec 64), slots.length ≤ maxSpillSlots ∧
      ∀ addr, Live reusesSlots (fun _ => 0) () n addr → addr ∈ slots := by
  obtain ⟨ended, stores, overwrites⟩ := reusesSlots_stores
  have short : n < 36 := by
    by_contra long
    obtain ⟨t, later⟩ := stateAt_earlier (by omega : 36 ≤ n) here
    rw [later] at ended
    cases ended
  -- Before the turn 33 only the first 32 slots have been spilled, and after the turn 32 the first of them is dead.
  refine ⟨if n ≤ 33 then (range 32).map fun i => slotAddr (i + 1) else
    (range 32).map fun i => slotAddr (i + 2), ?_, ?_⟩
  · split <;> simp [maxSpillSlots]
  · rintro addr ⟨m, t, v, region, before, spilled, stored, untouched⟩
    have known := stores m (by omega)
    rw [spilled, bind_some, stored, map_some] at known
    split at known
    · rename_i first
      obtain rfl := some.inj known
      by_cases early : n ≤ 33
      · rw [if_pos early]
        exact mem_map.mpr ⟨m, mem_range.mpr first, rfl⟩
      · rw [if_neg early]
        cases m with
        | zero =>
          obtain ⟨u, state⟩ := stateAt_earlier (by omega : 32 ≤ n) here
          rw [state, bind_some] at overwrites
          refine absurd ⟨_, _, overwrites, slotAddr 1, ?_, ?_⟩ (untouched 32 u (by omega) (by omega) state)
          · decide
          · decide
        | succ m => exact mem_map.mpr ⟨m, mem_range.mpr (by omega), rfl⟩
    split at known
    · obtain rfl := some.inj known
      rw [if_neg (by omega)]
      exact mem_map.mpr ⟨31, by decide, rfl⟩
    · cases known

theorem dead_entries_fill_table :
    (∀ n s, stateAt reusesSlots (fun _ => 0) () n = some s → ∃ slots : List (BitVec 64), slots.length ≤ maxSpillSlots ∧
        ∀ addr, Live reusesSlots (fun _ => 0) () n addr → addr ∈ slots) ∧
      ∃ t s s', stateAt reusesSlots (fun _ => 0) () 33 = some t ∧
        storedReg reusesSlots t = some (⟨0x9000, some reusesSlots.stackRegion⟩, slotAddr 33) ∧
        stateAt reusesSlots (fun _ => 0) () 34 = some s ∧ loadedReg reusesSlots s = some (3, slotAddr 33) ∧
        stateAt reusesSlots (fun _ => 0) () 35 = some s' ∧ s'.reg 3 = .scalar 0x9000 := by
  refine ⟨fun n s here => reusesSlots_live here, ?_⟩
  obtain ⟨s', last⟩ : ∃ s', stateAt reusesSlots (fun _ => 0) () 35 = some s' := isSome_iff_exists.mp (by decide +kernel)
  obtain ⟨s, here⟩ := stateAt_earlier (Nat.le_succ 34) last
  obtain ⟨t, first⟩ := stateAt_earlier (Nat.le_succ 33) here
  have facts :
      (stateAt reusesSlots (fun _ => 0) () 33).map (storedReg reusesSlots) =
          some (some (⟨0x9000, some reusesSlots.stackRegion⟩, slotAddr 33)) ∧
        (stateAt reusesSlots (fun _ => 0) () 34).map (loadedReg reusesSlots) = some (some (3, slotAddr 33)) ∧
        (stateAt reusesSlots (fun _ => 0) () 35).map (·.reg 3) = some (.scalar 0x9000) := by
    decide +kernel
  rw [first, here, last] at facts
  simp only [map_some, some.injEq] at facts
  exact ⟨t, s, s', first, facts.1, here, facts.2.1, last, facts.2.2⟩

end Sonde.Bpf
