import Sonde.Bpf.Effects

namespace Sonde.Bpf
open Lib.Program List

variable {ω : Type} {env : Env ω}

def unlimitedBudget : BitVec 64 := 0xffffffffffffffff

def Env.withBudget (env : Env ω) (budget : BitVec 64) : Env ω := { env with instructionBudget := budget }

def Stop.IsExceeded : Stop → Prop
  | .err (.instructionBudgetExceeded _) => True
  | _ => False

theorem Stop.IsExceeded.eq {e : Stop} (exceeded : e.IsExceeded) : ∃ pc, e = .err (.instructionBudgetExceeded pc) := by
  unfold Stop.IsExceeded at exceeded
  split at exceeded
  · exact ⟨_, rfl⟩
  · exact exceeded.elim

theorem charge_run (pc : Nat) (s : State ω) : charge env pc s =
      if env.overflowChecks ∧ 2 ^ 64 ≤ s.insnCount.toNat + 1 then (.error .panicked, s)
      else
        (if env.instructionBudget < s.insnCount + 1 then .error (.err (.instructionBudgetExceeded pc)) else .ok (),
          { s with insnCount := s.insnCount + 1 }) := by
  have one : (1 : BitVec 64).toNat = 1 := rfl
  simp only [charge, bind_run, read_run, addU64, one, ite_run, onlyIf, update_run, pure_run, panicked, err, stop_run]
  by_cases overflow : env.overflowChecks ∧ 2 ^ 64 ≤ s.insnCount.toNat + 1
  · simp only [if_pos overflow]
  · simp only [if_neg overflow]
    split
    · rfl
    · rfl

variable {budget : BitVec 64} (more : env.instructionBudget ≤ budget)

include more in
theorem charge_extends (pc : Nat) : Extends Stop.IsExceeded (charge env pc) (charge (env.withBudget budget) pc) := by
  intro s timely
  rw [charge_run] at timely ⊢
  rw [charge_run]
  change (if env.overflowChecks ∧ 2 ^ 64 ≤ s.insnCount.toNat + 1 then _ else _) = _
  by_cases overflow : env.overflowChecks ∧ 2 ^ 64 ≤ s.insnCount.toNat + 1
  · simp only [if_pos overflow]
  · simp only [if_neg overflow] at timely ⊢
    have within : ¬env.instructionBudget < s.insnCount + 1 := by
      intro exceeded
      simp only [if_pos exceeded] at timely
      exact timely _ rfl trivial
    have within' : ¬(env.withBudget budget).instructionBudget < s.insnCount + 1 := by
      simp only [Env.withBudget]
      bv_omega
    rw [if_neg within, if_neg within']

include more in
theorem ldDwImm_extends (insn : Insn) (dst src : Reg) :
    Extends Stop.IsExceeded (ldDwImm env insn dst src) (ldDwImm (env.withBudget budget) insn dst src) := by
  refine .bind (.refl _) fun pc => .ite (.refl _) ?_
  dsimp only [Env.withBudget]
  cases getInsn env.prog pc with
  | none => exact .refl _
  | some next =>
    refine .bind (.refl _) fun _ => .bind (charge_extends more pc) fun _ => ?_
    exact .refl _

include more in
theorem execute_extends (o : Opcode) (insn : Insn) (dst src : Reg) (pc : Nat) :
    Extends Stop.IsExceeded (execute env o insn dst src pc) (execute (env.withBudget budget) o insn dst src pc) := by
  cases o with
  | ldDwImm => exact .bind (ldDwImm_extends more insn dst src) fun _ => .refl _
  | ldReg size | stReg size => cases size <;> exact .refl _
  | _ => exact .refl _

include more in
theorem iterate_extends : Extends Stop.IsExceeded (iterate env) (iterate (env.withBudget budget)) := by
  refine .bind (.refl _) fun pc => .bind (charge_extends more pc) fun _ => ?_
  dsimp only [Env.withBudget]
  cases getInsn env.prog pc with
  | none => exact .refl _
  | some insn =>
    refine .bind (.refl _) fun _ => ?_
    split
    · cases opcode insn.opc with
      | none => exact .refl _
      | some o => exact execute_extends more o insn _ _ _
    · exact .refl _

/-! ## Metered turns -/

structure Metered (env : Env ω) (s : State ω) : Prop where
  limited : env.instructionBudget ≠ unlimitedBudget
  count : s.insnCount ≤ env.instructionBudget

variable {s : State ω} (metered : Metered env s)

include metered in
theorem Metered.bump : (s.insnCount + 1).toNat = s.insnCount.toNat + 1 := by
  have limited := metered.limited
  have count := metered.count
  simp only [unlimitedBudget] at limited
  bv_omega

include metered in
theorem Metered.charge (pc : Nat) : charge env pc s =
      (if s.insnCount = env.instructionBudget then .error (.err (.instructionBudgetExceeded pc)) else .ok (),
        { s with insnCount := s.insnCount + 1 }) := by
  have bump := metered.bump
  have count := metered.count
  rw [charge_run, if_neg (by have := (s.insnCount + 1).isLt; omega)]
  by_cases spent : s.insnCount = env.instructionBudget
  · rw [if_pos spent, if_pos (by bv_omega)]
  · rw [if_neg spent, if_neg (by bv_omega)]

def dispatch (env : Env ω) (insn : Insn) (pc : Nat) : M ω (Option (BitVec 64)) :=
  if h : insn.dst ≤ 10 ∧ insn.src ≤ 10 then
    match opcode insn.opc with
    | some o => execute env o insn ⟨insn.dst, Insn.dst_lt h⟩ ⟨insn.src, Insn.src_lt h⟩ pc
    | none => err (.unknownOpcode (pc - 1) insn.opc)
  else err (.unknownOpcode (pc - 1) insn.opc)

def State.fetched (s : State ω) : State ω := { s with insnCount := s.insnCount + 1, pc := s.pc + 1 }

include metered in
theorem Metered.fetched (left : s.insnCount ≠ env.instructionBudget) : Metered env s.fetched := by
  refine ⟨metered.limited, ?_⟩
  have count := metered.count
  simp only [State.fetched]
  bv_omega

theorem getInsn_some {prog : List (BitVec 8)} {idx : Nat} (inside : idx < prog.length / insnSize) :
    ∃ insn, getInsn prog idx = some insn := by
  have length : ((prog.drop (idx * insnSize)).take insnSize).length = 8 := by
    simp only [length_take, length_drop, insnSize] at inside ⊢
    omega
  unfold getInsn
  generalize (prog.drop (idx * insnSize)).take insnSize = bytes at length
  match bytes, length with
  | [b0, b1, b2, b3, b4, b5, b6, b7], _ => exact ⟨_, rfl⟩

include metered in
theorem Metered.refused (spent : s.insnCount = env.instructionBudget) : iterate env s =
      (.error (.err (.instructionBudgetExceeded s.pc)), { s with insnCount := s.insnCount + 1 }) := by
  simp only [iterate, bind_run, getPc, read_run, metered.charge, if_pos spent]

variable {insn : Insn}

theorem iterate_charged (charged : (charge env s.pc s).1 = .ok ())
    (fetch : getInsn env.prog s.pc = some insn) : iterate env s = dispatch env insn (s.pc + 1) s.fetched := by
  have counted : charge env s.pc s = (.ok (), { s with insnCount := s.insnCount + 1 }) := by
    rw [charge_run] at charged ⊢
    split at charged
    · cases charged
    · rename_i fits
      rw [if_neg fits]
      exact congrArg (·, _) charged
  simp only [iterate, bind_run, getPc, read_run, counted, fetch, setPc, update_run]
  rfl

include metered in
theorem Metered.admitted (left : s.insnCount ≠ env.instructionBudget)
    (fetch : getInsn env.prog s.pc = some insn) : iterate env s = dispatch env insn (s.pc + 1) s.fetched :=
  iterate_charged (by rw [metered.charge, if_neg left]) fetch

theorem iterate_ok {s' : State ω} {r : Option (BitVec 64)} (action : iterate env s = (.ok r, s')) :
    ∃ (insn : Insn) (o : Opcode) (dst : insn.dst ≤ 10) (src : insn.src ≤ 10), getInsn env.prog s.pc = some insn ∧
      opcode insn.opc = some o ∧
      execute env o insn ⟨insn.dst, by omega⟩ ⟨insn.src, by omega⟩ (s.pc + 1) s.fetched = (.ok r, s') := by
  obtain ⟨pc, t, read, action⟩ := bind_ok action
  cases read
  obtain ⟨_, t, charged, action⟩ := bind_ok action
  rw [charge_run] at charged
  split at charged
  · cases charged
  split at charged
  · cases charged
  cases charged
  cases fetch : getInsn env.prog s.pc with
  | none =>
    rw [fetch] at action
    cases action
  | some insn =>
    rw [fetch] at action
    obtain ⟨_, t, moved, action⟩ := bind_ok action
    cases moved
    split at action
    · rename_i named
      cases o : opcode insn.opc with
      | none =>
        rw [o] at action
        cases action
      | some op =>
        rw [o] at action
        exact ⟨insn, op, named.1, named.2, rfl, o, action⟩
    · cases action

/-! ## Slots -/

section
variable (env)

def slots (s : State ω) : Nat :=
  match getInsn env.prog s.pc with
  | none => 1
  | some insn =>
    if opcode insn.opc = some .ldDwImm ∧ insn.dst ≤ 10 ∧ insn.src ≤ 10 ∧ s.pc + 1 < env.numInsns then 2 else 1

def turns : Nat → State ω → List (State ω)
  | 0, _ => []
  | fuel + 1, s =>
    if s.pc < env.numInsns then
      match iterate env s with
      | (.ok none, s') => s :: turns fuel s'
      | (.error (.err (.instructionBudgetExceeded _)), _) => []
      | _ => [s]
    else []

def programTurns (fuel : Nat) (mem : Mem) (host : ω) : List (State ω) :=
  match prologue env with
  | .error _ => []
  | .ok () => turns env fuel (initial env mem host)

structure HelperCall (ω : Type) where
  id : BitVec 32
  args : List (BitVec 64)
  mem : Mem
  host : ω

def helperCall (s : State ω) : Option (HelperCall ω) := do
  let insn ← getInsn env.prog s.pc
  let desc ← env.helpers.find? (·.id = insn.imm)
  if insn.opc = Opcode.call.byte ∧ insn.dst ≤ 10 ∧ (insn.src = 0 ∨ insn.src = 2) then
    some ⟨desc.id, [1, 2, 3, 4, 5].map fun r => (s.reg r).value, s.mem, s.host⟩
  else none

def helperCalls (fuel : Nat) (mem : Mem) (host : ω) : List (HelperCall ω) :=
  (programTurns env fuel mem host).filterMap (helperCall env)

def slotsExecuted (fuel : Nat) (mem : Mem) (host : ω) : Nat := ((programTurns env fuel mem host).map (slots env)).sum

end

include metered in
theorem ldDwImm_cost {dst src : Reg} :
    (∃ e, (ldDwImm env insn dst src s).1 = .error e ∧ e.IsExceeded) ∨
      (ldDwImm env insn dst src s).2.insnCount.toNat =
          s.insnCount.toNat + (if s.pc < env.numInsns then 1 else 0) ∧
        (ldDwImm env insn dst src s).2.insnCount ≤ env.instructionBudget := by
  simp only [ldDwImm, bind_run, getPc, read_run]
  by_cases inside : s.pc < env.numInsns
  · obtain ⟨next, fetch⟩ := getInsn_some inside
    have count := metered.count
    have moved : Metered env { s with pc := s.pc + 1 } := ⟨metered.limited, metered.count⟩
    simp only [inside, if_true, if_neg (Nat.not_le.mpr inside), fetch, bind_run, setPc, update_run, moved.charge]
    by_cases spent : s.insnCount = env.instructionBudget
    · exact .inl ⟨.err (.instructionBudgetExceeded s.pc), by simp only [if_pos spent], trivial⟩
    · right
      simp only [if_neg spent]
      -- The relocations change registers only.
      have rest {m : M ω Unit} (left : Leaves .count m) (t : State ω) (counted : t.insnCount = s.insnCount + 1) :
          (m t).2.insnCount.toNat = s.insnCount.toNat + 1 ∧ (m t).2.insnCount ≤ env.instructionBudget := by
        have same : (m t).2.insnCount = t.insnCount := left t
        rw [same, counted]
        bv_omega
      refine rest (.ite (fun _ => rfl) (.ite ?_ (.ite ?_ fun _ => rfl))) _ rfl
      · exact .bind (.ofExcept _) fun _ _ => rfl
      · exact .bind (.ofExcept _) fun _ => .bind (.ofExcept _) fun _ _ => rfl
  · right
    simp only [inside, if_false, if_pos (Nat.not_lt.mp inside), err, stop_run]
    exact ⟨rfl, metered.count⟩

theorem proceed_cost {arm : M ω Unit} {n : Nat} (cost : (∃ e, (arm s).1 = .error e ∧ e.IsExceeded) ∨
      (arm s).2.insnCount.toNat = n ∧ (arm s).2.insnCount ≤ env.instructionBudget) :
    (∃ e, (proceed arm s).1 = .error e ∧ e.IsExceeded) ∨
      (proceed arm s).2.insnCount.toNat = n ∧ (proceed arm s).2.insnCount ≤ env.instructionBudget := by
  simp only [proceed, bind_run]
  cases run : arm s with
  | mk result s' =>
    rw [run] at cost
    cases result with
    | ok _ => exact cost.imp_left fun ⟨e, failed, _⟩ => by cases failed
    | error e => simpa using cost

include metered in
theorem Metered.turn (inside : s.pc < env.numInsns) : (∃ e, (iterate env s).1 = .error e ∧ e.IsExceeded) ∨
      (iterate env s).2.insnCount.toNat = s.insnCount.toNat + slots env s ∧
        (iterate env s).2.insnCount ≤ env.instructionBudget := by
  obtain ⟨insn, fetch⟩ := getInsn_some inside
  by_cases spent : s.insnCount = env.instructionBudget
  · exact .inl ⟨.err (.instructionBudgetExceeded s.pc), by rw [metered.refused spent], trivial⟩
  have bump := metered.bump
  have fetched := metered.fetched spent
  -- An instruction that leaves the count alone costs its one slot.
  have narrow {m : M ω (Option (BitVec 64))} (left : (m s.fetched).2.part .count = s.fetched.part .count)
      (single : slots env s = 1) : (m s.fetched).2.insnCount.toNat = s.insnCount.toNat + slots env s ∧
        (m s.fetched).2.insnCount ≤ env.instructionBudget := by
    rw [show (m s.fetched).2.insnCount = s.fetched.insnCount from left, single]
    exact ⟨bump, fetched.count⟩
  rw [metered.admitted spent fetch]
  unfold dispatch
  by_cases named : insn.dst ≤ 10 ∧ insn.src ≤ 10
  · rw [dif_pos named]
    cases o : opcode insn.opc with
    | none => exact .inr (narrow rfl (by simp [slots, fetch, o]))
    | some op =>
      by_cases wide : op = .ldDwImm
      · subst wide
        have cost : slots env s = 1 + if s.fetched.pc < env.numInsns then 1 else 0 := by
          by_cases second : s.fetched.pc < env.numInsns
          · have second' : s.pc + 1 < env.numInsns := second
            simp [slots, fetch, o, named, second, second']
          · have second' : ¬s.pc + 1 < env.numInsns := second
            simp [slots, fetch, o, second, second']
        rw [cost, ← Nat.add_assoc, ← bump]
        exact proceed_cost (ldDwImm_cost fetched)
      · exact .inr (narrow (execute_leaves (p := .count) wide) (by simp [slots, fetch, o, wide]))
  · rw [dif_neg named]
    refine .inr (narrow rfl ?_)
    simp only [slots, fetch]
    exact if_neg fun wide => named ⟨wide.2.1, wide.2.2.1⟩

/-! ## Whole runs -/

theorem Metered.initial (limited : env.instructionBudget ≠ unlimitedBudget) (mem : Mem) (host : ω) :
    Metered env (initial env mem host) :=
  ⟨limited, Nat.zero_le _⟩

include metered in
theorem Metered.next {s' : State ω} (inside : s.pc < env.numInsns)
    (action : iterate env s = (.ok none, s')) : Metered env s' ∧ s'.insnCount.toNat = s.insnCount.toNat + slots env s := by
  have turn := metered.turn inside
  rw [action] at turn
  rcases turn with ⟨e, failed, _⟩ | ⟨counted, bound⟩
  · cases failed
  · exact ⟨⟨metered.limited, bound⟩, counted⟩

theorem slots_pos (env : Env ω) (s : State ω) : 1 ≤ slots env s := by
  unfold slots
  repeat' split
  all_goals omega

include metered in
theorem turns_cost (fuel : Nat) :
    s.insnCount.toNat + ((turns env fuel s).map (slots env)).sum ≤ env.instructionBudget.toNat := by
  have start : s.insnCount.toNat ≤ env.instructionBudget.toNat := metered.count
  induction fuel generalizing s with
  | zero => simpa [turns] using start
  | succ fuel ih =>
    by_cases inside : s.pc < env.numInsns
    · have turn := metered.turn inside
      simp only [turns, inside, if_true]
      split
      · rename_i s' action
        obtain ⟨next, counted⟩ := metered.next inside action
        have rest := ih next next.count
        simp only [map_cons, sum_cons]
        omega
      · simpa using start
      · rename_i timely
        rcases turn with ⟨e, failed, exceeded⟩ | ⟨counted, bound⟩
        · obtain ⟨pc, rfl⟩ := exceeded.eq
          exact (timely pc _ (Prod.ext failed rfl)).elim
        · simp only [map_cons, map_nil, sum_cons, sum_nil, Nat.add_zero]
          rw [← counted]
          exact bound
    · simpa [turns, inside] using start

variable {fuel : Nat}

include metered in
theorem loop_returns (enough : env.instructionBudget.toNat - s.insnCount.toNat < fuel) : (loop env fuel s).isSome := by
  induction fuel generalizing s with
  | zero => omega
  | succ fuel ih =>
    by_cases inside : s.pc < env.numInsns
    · simp only [loop, inside, if_true]
      cases action : iterate env s with
      | mk outcome s' =>
        cases outcome with
        | error e => rfl
        | ok value =>
          cases value with
          | some r0 => rfl
          | none =>
            obtain ⟨next, counted⟩ := metered.next inside action
            have count : s'.insnCount.toNat ≤ env.instructionBudget.toNat := next.count
            have one := slots_pos env s
            exact ih next (by omega)
    · simp [loop, inside]

def NotExceeded (result : Except Stop (BitVec 64)) : Prop := ∀ e, result = .error e → ¬e.IsExceeded

include more in
theorem loop_extends {final : State ω}
    {result : Except Stop (BitVec 64)} (run : loop env fuel s = some (result, final)) (timely : NotExceeded result) :
    loop (env.withBudget budget) fuel s = some (result, final) ∧
      turns (env.withBudget budget) fuel s = turns env fuel s := by
  induction fuel generalizing s with
  | zero => simp [loop] at run
  | succ fuel ih =>
    by_cases inside : s.pc < env.numInsns
    · have inside' : s.pc < (env.withBudget budget).numInsns := inside
      have agrees := iterate_extends more s
      simp only [loop, turns, inside, inside', if_true] at run ⊢
      cases action : iterate env s with
      | mk outcome s' =>
        rw [action] at run agrees
        cases outcome with
        | error e =>
          simp only [Option.some.injEq, Prod.mk.injEq] at run
          have late : ¬e.IsExceeded := timely e run.1.symm
          rw [agrees (by simpa using late)]
          refine ⟨by simp [run], ?_⟩
          split
          · rename_i same
            cases same
          · rfl
          · rfl
        | ok value =>
          rw [agrees (by simp)]
          cases value with
          | some r0 => exact ⟨run, rfl⟩
          | none =>
            obtain ⟨same, sameTurns⟩ := ih run
            exact ⟨same, congrArg (s :: ·) sameTurns⟩
    · have outside : ¬s.pc < (env.withBudget budget).numInsns := inside
      simp only [loop, turns, inside, outside, if_false] at run ⊢
      exact ⟨run, trivial⟩

theorem executeProgram_returns (limited : env.instructionBudget ≠ unlimitedBudget) (mem : Mem) (host : ω) :
    (executeProgram env (env.instructionBudget.toNat + 1) mem host).isSome := by
  unfold executeProgram
  cases prologue env with
  | error e => rfl
  | ok _ => exact loop_returns (Metered.initial limited mem host) (by omega)

include more in
theorem executeProgram_extends {mem : Mem} {host : ω} {final : State ω}
    {result : Except Stop (BitVec 64)} (run : executeProgram env fuel mem host = some (result, final))
    (timely : NotExceeded result) : executeProgram (env.withBudget budget) fuel mem host = some (result, final) ∧
      programTurns (env.withBudget budget) fuel mem host = programTurns env fuel mem host := by
  have sameReady : prologue (env.withBudget budget) = prologue env := rfl
  unfold executeProgram programTurns at *
  rw [sameReady]
  cases ready : prologue env with
  | error e =>
    rw [ready] at run
    exact ⟨run, rfl⟩
  | ok _ =>
    rw [ready] at run
    exact loop_extends more run timely

/-- With a budget other than `UNLIMITED_BUDGET` a run returns, having executed at most that many slots. A run that its
budget does not end has the same result, final state and helper calls under every larger budget. -/
theorem instructionBudget_bounds (env : Env ω) (mem : Mem) (host : ω) : (env.instructionBudget ≠ unlimitedBudget →
      (executeProgram env (env.instructionBudget.toNat + 1) mem host).isSome ∧
        ∀ fuel, slotsExecuted env fuel mem host ≤ env.instructionBudget.toNat) ∧
      ∀ fuel result final budget, executeProgram env fuel mem host = some (result, final) → NotExceeded result →
        env.instructionBudget ≤ budget → executeProgram (env.withBudget budget) fuel mem host = some (result, final) ∧
          helperCalls (env.withBudget budget) fuel mem host = helperCalls env fuel mem host := by
  constructor
  · refine fun limited => ⟨executeProgram_returns limited mem host, fun fuel => ?_⟩
    unfold slotsExecuted programTurns
    cases ready : prologue env with
    | error e => simp
    | ok _ =>
      have cost := turns_cost (Metered.initial limited mem host) fuel
      dsimp only
      omega
  · intro fuel result final budget run timely more
    obtain ⟨same, sameTurns⟩ := executeProgram_extends more run timely
    refine ⟨same, ?_⟩
    unfold helperCalls
    rw [sameTurns]
    rfl

-- `r0 = 5 ll; exit` takes three slots.
def wideEnv : Env Unit where
  prog := [0x18, 0, 0, 0, 5, 0, 0, 0, 0, 0, 0, 0, 0, 0, 0, 0, 0x95, 0, 0, 0, 0, 0, 0, 0]
  ctxBase := 0x1000
  ctxLen := 0
  helpers := []
  maps := []
  readOnlyCtx := true
  instructionBudget := 3
  ctxPtrs := []
  stackBase := 0x8000
  overflowChecks := true

theorem wideEnv_finishes : (executeProgram wideEnv 2 (fun _ => 0) ()).isSome := by decide +kernel

def wideRun : Except Stop (BitVec 64) × State Unit := Option.get _ wideEnv_finishes

theorem instructionBudget_bounds_wide :
    slotsExecuted wideEnv 2 (fun _ => 0) () = 3 ∧ slotsExecuted wideEnv 2 (fun _ => 0) () ≤ 3 ∧
      executeProgram (wideEnv.withBudget 7) 2 (fun _ => 0) () = some (wideRun.1, wideRun.2) := by
  have run : executeProgram wideEnv 2 (fun _ => 0) () = some (wideRun.1, wideRun.2) :=
    (Option.some_get wideEnv_finishes).symm
  have bounds := instructionBudget_bounds wideEnv (fun _ => 0) ()
  refine ⟨by decide +kernel, (bounds.1 (by decide)).2 2, (bounds.2 2 _ _ 7 run ?_ (by decide)).1⟩
  intro e failed
  cases failed

-- `goto -1`, in a build without overflow checks.
def spinEnv : Env Unit where
  prog := [0x05, 0, 0xff, 0xff, 0, 0, 0, 0]
  ctxBase := 0x1000
  ctxLen := 0
  helpers := []
  maps := []
  readOnlyCtx := true
  instructionBudget := unlimitedBudget
  ctxPtrs := []
  stackBase := 0x8000
  overflowChecks := false

theorem spinEnv_iterate (s : State Unit) (start : s.pc = 0) :
    iterate spinEnv s = (.ok none, { s with insnCount := s.insnCount + 1 }) := by
  have admitted : ¬spinEnv.instructionBudget < s.insnCount + 1 := by
    simp only [spinEnv, unlimitedBudget]
    bv_omega
  obtain ⟨reg, spillTracker, callFrames, pc, insnCount, mem, host, accesses⟩ := s
  subst start
  simp only [iterate, bind_run, getPc, read_run, charge_run, if_neg admitted]
  rfl

theorem spinEnv_turns (fuel : Nat) (s : State Unit) (start : s.pc = 0) :
    ((turns spinEnv fuel s).map (slots spinEnv)).sum = fuel := by
  induction fuel generalizing s with
  | zero => rfl
  | succ fuel ih =>
    have inside : s.pc < spinEnv.numInsns := by rw [start]; decide
    have single : slots spinEnv s = 1 := by rw [slots, start]; rfl
    have rest := ih { s with insnCount := s.insnCount + 1 } start
    simp only [turns, inside, if_true, spinEnv_iterate s start, map_cons, sum_cons, rest, single]
    omega

theorem unlimitedBudget_unmetered :
    ∃ fuel, spinEnv.instructionBudget.toNat < slotsExecuted spinEnv fuel (fun _ => 0) () := by
  have executed (fuel : Nat) : slotsExecuted spinEnv fuel (fun _ => 0) () = fuel := spinEnv_turns fuel _ rfl
  refine ⟨2 ^ 64, ?_⟩
  rw [executed]
  exact spinEnv.instructionBudget.isLt

end Sonde.Bpf
