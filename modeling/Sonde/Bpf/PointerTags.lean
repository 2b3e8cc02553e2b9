import Sonde.Bpf.Conformance

/-!
# Pointer tags under arithmetic

`tagRule` states SBPF-0400 to SBPF-0402: the table of tags for 64-bit operations, the precedence rule for map
descriptors, which are handles and not addresses, and the rule that a 32-bit operation clears the tag.
-/

namespace Sonde.Bpf
open Lib.Program

variable {ω : Type} {env : Env ω}

def isHandle (tag : Option Region) : Bool := tag.any (·.tag.isDescriptor)

def invalidArithmetic (pc : Nat) : Except Stop (Option Region) := .error (.err (.invalidPointerArithmetic pc))

/-- The rows of SBPF-0400. A bitwise operation on a scalar and a pointer has none. -/
def tagTable (pc : Nat) (source : Source) (d b : Option Region) : AluOp → Option (Except Stop (Option Region))
  | .add =>
    match d, b with
    | some r, none | none, some r => some (.ok (some r))
    | none, none => some (.ok none)
    | some _, some _ => some (invalidArithmetic pc)
  | .sub =>
    match d, b with
    | some r, none => some (.ok (some r))
    | some r, some r' => if r = r' then some (.ok none) else some (invalidArithmetic pc)
    | none, some _ => some (invalidArithmetic pc)
    | none, none => some (.ok none)
  | .mul | .div | .mod | .lsh | .rsh | .arsh | .neg => some (.ok none)
  | .and | .or | .xor =>
    match d, b with
    | none, none => some (.ok none)
    | some _, _ => some (invalidArithmetic pc)
    | none, some _ => none
  | .mov =>
    match source with
    | .reg => some (.ok b)
    | .imm => some (.ok none)

/-- The tag of the destination after an ALU operation on operands with the tags `d` and `b`, or its error; `none` where
the requirements say nothing. -/
def Opcode.tagRule (pc : Nat) (d b : Option Region) : Opcode → Option (Except Stop (Option Region))
  | .alu32 _ _ | .le | .be => some (.ok none)
  | .alu64 .mov .reg => some (.ok b)
  | .alu64 op source =>
    -- SBPF-0401 comes before the table.
    if isHandle d || isHandle b then some (invalidArithmetic pc) else tagTable pc source d b op
  | .bswap => if isHandle d then some (invalidArithmetic pc) else none
  | _ => none

def Opcode.operandTag (s : State ω) (src : Reg) : Opcode → Option Region
  | .alu64 _ .reg => (s.reg src).region
  | _ => none

def tagAfter (dst : Reg) (run : Except Stop (Option (BitVec 64)) × State ω) : Except Stop (Option Region) :=
  run.1.map fun _ => (run.2.reg dst).region

def TagsFollow (env : Env ω) (s : State ω) (o : Opcode) (dst src : Reg) : Prop :=
  ∀ expected, o.tagRule s.pc (s.reg dst).region (o.operandTag s src) = some expected →
    tagAfter dst (iterate env s) = expected

/-- No handle takes part in an operation that makes a scalar of it, and no sign-extending move has a tagged source. -/
def Opcode.SparesHandles (insn : Insn) (d b : Option Region) : Opcode → Prop
  | .alu64 op source =>
    match op with
    | .add | .or | .and | .xor => True
    | .sub => ¬(isHandle d ∧ d = b)
    | .mov => if source = .reg then insn.off = 0 ∨ b = none else ¬isHandle d
    | .mul | .div | .lsh | .rsh | .neg | .mod | .arsh => ¬isHandle d ∧ ¬isHandle b
  | .bswap => ¬isHandle d
  | _ => True

/-! ## The arms -/

variable {insn : Insn} {pc : Nat} {d b : TaggedReg} {op : AluOp} {source : Source}

theorem tagRule_alu64 (other : ¬(op = .mov ∧ source = .reg)) (d b : Option Region) :
    (Opcode.alu64 op source).tagRule pc d b =
      if isHandle d || isHandle b then some (invalidArithmetic pc) else tagTable pc source d b op := by
  unfold Opcode.tagRule
  all_goals simp_all

theorem follows_rule {computed : Except Stop (Option Region)} (other : ¬(op = .mov ∧ source = .reg)) {d b : Option Region}
    (refuses : (isHandle d || isHandle b) = true → computed = invalidArithmetic pc)
    (table : (isHandle d || isHandle b) = false → ∀ expected, tagTable pc source d b op = some expected →
      computed = expected) :
    ∀ expected, (Opcode.alu64 op source).tagRule pc d b = some expected → computed = expected := by
  intro expected rule
  rw [tagRule_alu64 other] at rule
  cases handle : isHandle d || isHandle b with
  | true =>
    rw [if_pos handle] at rule
    exact (refuses handle).trans (Option.some.inj rule)
  | false =>
    rw [if_neg (by simp [handle])] at rule
    exact table handle expected rule

theorem scalar_follows_iff (other : ¬(op = .mov ∧ source = .reg)) {d b : Option Region}
    (table : tagTable pc source d b op = some (.ok none)) :
    (∀ expected, (Opcode.alu64 op source).tagRule pc d b = some expected → .ok none = expected) ↔
      ¬isHandle d ∧ ¬isHandle b := by
  rw [tagRule_alu64 other, table]
  cases isHandle d <;> cases isHandle b <;> simp [invalidArithmetic]

theorem addRegion_handle {d b : Option Region} (handle : (isHandle d || isHandle b) = true) :
    addRegion (pc + 1) d b = invalidArithmetic pc := by
  cases d <;> cases b <;> simp_all [addRegion, isHandle, invalidArithmetic]

theorem addRegion_table {d b : Option Region} (plain : (isHandle d || isHandle b) = false) :
    tagTable pc source d b .add = some (addRegion (pc + 1) d b) := by
  cases d <;> cases b <;> simp_all [addRegion, isHandle, invalidArithmetic, tagTable]

theorem subRegion_handle {d b : Option Region} (handle : (isHandle d || isHandle b) = true) (apart : d ≠ b) :
    subRegion (pc + 1) d b = invalidArithmetic pc := by
  cases d <;> cases b <;> simp_all [subRegion, isHandle, invalidArithmetic]

theorem subRegion_table {d b : Option Region} (plain : (isHandle d || isHandle b) = false) :
    tagTable pc source d b .sub = some (subRegion (pc + 1) d b) := by
  cases d <;> cases b <;> simp_all [subRegion, isHandle, invalidArithmetic, tagTable]
  split <;> rfl

theorem bitwise_handle {v : BitVec 64} (handle : (isHandle d.region || isHandle b.region) = true) :
    (bitwise (pc + 1) d b v).map (·.region) = invalidArithmetic pc := by
  have tagged : d.region.isSome ∨ b.region.isSome := by
    cases first : d.region <;> cases second : b.region <;> simp_all [isHandle]
  simp [bitwise, tagged, invalidArithmetic, Except.map]

theorem bitwise_table {v : BitVec 64} {expected : Except Stop (Option Region)}
    (bitwiseOp : op = .and ∨ op = .or ∨ op = .xor) (table : tagTable pc source d.region b.region op = some expected) :
    (bitwise (pc + 1) d b v).map (·.region) = expected := by
  rcases bitwiseOp with rfl | rfl | rfl <;>
    cases first : d.region <;> cases second : b.region <;>
    simp_all [tagTable, bitwise, invalidArithmetic, Except.map]

theorem map_region (result : Except Stop (Option Region)) (v : BitVec 64) :
    (result.map fun region => TaggedReg.mk v region).map (·.region) = result := by
  cases result <;> rfl

theorem division_scalar (division : op = .div ∨ op = .mod) : (alu64 op source insn pc d b).map (·.region) = .ok none := by
  rcases division with rfl | rfl
  all_goals
    simp only [alu64]
    split
  all_goals rfl

theorem mov_tags_iff (accepted : ¬(Opcode.alu64 .mov .reg).Refuses insn) :
    (alu64 .mov .reg insn (pc + 1) d b).map (·.region) = .ok b.region ↔ insn.off = 0 ∨ b.region = none := by
  have variant : insn.off = 0 ∨ insn.off = 8 ∨ insn.off = 16 ∨ insn.off = 32 := by
    simp only [Opcode.Refuses] at accepted
    by_contra others
    simp_all
  rcases variant with off | off | off | off <;> simp [alu64, off, Except.map, TaggedReg.scalar, eq_comm]

theorem alu64_tags_iff (accepted : ¬(Opcode.alu64 op source).Refuses insn) (immediate : source = .imm → b.region = none) :
    (∀ expected, (Opcode.alu64 op source).tagRule pc d.region b.region = some expected →
        (alu64 op source insn (pc + 1) d b).map (·.region) = expected) ↔
      (Opcode.alu64 op source).SparesHandles insn d.region b.region := by
  cases op with
  | mul | lsh | rsh | neg | arsh => exact scalar_follows_iff (by simp) rfl
  | div | mod =>
    rw [division_scalar (by simp)]
    exact scalar_follows_iff (by simp) rfl
  | add =>
    simp only [alu64, map_region]
    refine iff_of_true (follows_rule (by simp) addRegion_handle fun plain expected row => ?_) trivial
    exact Option.some.inj ((addRegion_table plain).symm.trans row)
  | sub =>
    simp only [alu64, map_region, Opcode.SparesHandles]
    by_cases same : isHandle d.region ∧ d.region = b.region
    · refine iff_of_false (fun follows => ?_) (not_not_intro same)
      obtain ⟨handle, equal⟩ := same
      have invalid := follows _ (by rw [tagRule_alu64 (by simp), handle]; rfl)
      rw [← equal] at invalid
      cases tag : d.region with
      | none => simp [tag, isHandle] at handle
      | some region => simp [tag, subRegion, invalidArithmetic] at invalid
    · refine iff_of_true (follows_rule (by simp) (fun handle => subRegion_handle handle ?_) fun plain expected row => ?_) same
      · intro equal
        simp_all
      · exact Option.some.inj ((subRegion_table plain).symm.trans row)
  | or | and | xor =>
    exact iff_of_true (follows_rule (by simp) bitwise_handle fun _ expected row => bitwise_table (by simp) row) trivial
  | mov =>
    cases source with
    | reg =>
      simp only [Opcode.tagRule, Opcode.SparesHandles, Option.some.injEq, forall_eq', if_true]
      exact mov_tags_iff accepted
    | imm =>
      have untagged := immediate rfl
      refine (scalar_follows_iff (by simp) rfl).trans ?_
      simp [Opcode.SparesHandles, untagged, isHandle]

/-! ## One turn -/

theorem tagAfter_proceed {arm : M ω Unit} {s s' : State ω} (dst : Reg) (run : arm s = (.ok (), s')) :
    tagAfter dst (proceed arm s) = .ok (s'.reg dst).region := by
  rw [proceed, bind_run, run]
  rfl

theorem execAlu64_tagAfter (op : AluOp) (source : Source) (insn : Insn) (dst src : Reg) (s : State ω) :
    ∃ b : TaggedReg, b.region = (Opcode.alu64 op source).operandTag s src ∧
      tagAfter dst (proceed (execAlu64 op source insn dst src (s.pc + 1)) s.fetched) =
        (alu64 op source insn (s.pc + 1) (s.reg dst) b).map (·.region) := by
  obtain ⟨b, fetched, tag⟩ : ∃ b, operand source insn src s.fetched = (.ok b, s.fetched) ∧
      b.region = (Opcode.alu64 op source).operandTag s src := by
    cases source <;> exact ⟨_, rfl, rfl⟩
  refine ⟨b, tag, ?_⟩
  simp only [proceed, execAlu64, bind_run, getReg, read_run, fetched, ofExcept_run, fetched_reg]
  cases alu64 op source insn (s.pc + 1) (s.reg dst) b with
  | error e => rfl
  | ok v => simp [setReg, update_run, tagAfter, Except.map, pure_run]

theorem execSwap_tagAfter {swap : Bool} {insn : Insn} (encoded : ¬(insn.imm ≠ 16 ∧ insn.imm ≠ 32 ∧ insn.imm ≠ 64))
    (dst : Reg) (pc : Nat) (s : State ω) : tagAfter dst (proceed (execSwap swap insn dst pc) s) = .ok none := by
  obtain ⟨v, swapped⟩ : ∃ v, byteSwap swap insn.imm (s.reg dst).value = some v := by
    have width : insn.imm = 16 ∨ insn.imm = 32 ∨ insn.imm = 64 := by
      by_contra others
      simp_all
    rcases width with imm | imm | imm <;> simp [byteSwap, imm]
  have run : execSwap swap insn dst pc s =
      (.ok (), { s with reg := Function.update s.reg dst (.scalar v) }) := by
    simp only [execSwap, bind_run, getReg, read_run, swapped, setScalar, setReg, update_run]
  rw [tagAfter_proceed dst run]
  simp [TaggedReg.scalar]

theorem execAlu32_tagAfter {op : AluOp} {source : Source} {insn : Insn}
    (encoded : ¬(Opcode.alu32 op source).Refuses insn) (dst src : Reg) (s : State ω) :
    tagAfter dst (proceed (execAlu32 op source insn dst src (s.pc + 1)) s.fetched) = .ok none := by
  obtain ⟨b, fetched, -⟩ := operand_run source insn src s
  obtain ⟨v, result⟩ := alu32_accepts (s.reg dst).value b.value encoded
  have run : execAlu32 op source insn dst src (s.pc + 1) s.fetched =
      (.ok (), { s.fetched with reg := Function.update s.reg dst (.scalar (v.setWidth 64)) }) := by
    simp only [execAlu32, bind_run, getReg, read_run, fetched, fetched_reg, result, Option.map_some, setScalar,
      setReg, update_run]
  rw [tagAfter_proceed dst run]
  simp [TaggedReg.scalar]

theorem iterate_tags_iff (env : Env ω) (s : State ω) (insn : Insn) (o : Opcode) (dst src : Reg)
    (charged : (charge env s.pc s).1 = .ok ()) (fetch : getInsn env.prog s.pc = some insn)
    (named : insn.dst = dst.val ∧ insn.src = src.val) (decoded : opcode insn.opc = some o) (encoded : ¬o.Refuses insn) :
    TagsFollow env s o dst src ↔ o.SparesHandles insn (s.reg dst).region (o.operandTag s src) := by
  have turn : iterate env s = execute env o insn dst src (s.pc + 1) s.fetched := by
    have fields : insn.dst ≤ 10 ∧ insn.src ≤ 10 := by omega
    rw [iterate_charged charged fetch, dispatch, dif_pos fields, decoded]
    simp only [named]
  unfold TagsFollow
  rw [turn]
  cases o with
  | alu64 op source =>
    obtain ⟨b, tag, result⟩ := execAlu64_tagAfter op source insn dst src s
    rw [← tag]
    change (∀ expected, _ → tagAfter dst (proceed _ _) = expected) ↔ _
    rw [result]
    refine alu64_tags_iff encoded fun immediate => ?_
    subst immediate
    exact tag
  | alu32 op source =>
    simp only [Opcode.tagRule, Option.some.injEq, forall_eq', Opcode.SparesHandles, iff_true]
    exact execAlu32_tagAfter encoded dst src s
  | le | be =>
    simp only [Opcode.tagRule, Option.some.injEq, forall_eq', Opcode.SparesHandles, iff_true]
    exact execSwap_tagAfter encoded dst _ s.fetched
  | bswap =>
    have swapped : tagAfter dst (execute env .bswap insn dst src (s.pc + 1) s.fetched) = .ok none :=
      execSwap_tagAfter encoded dst _ s.fetched
    rw [swapped]
    by_cases handle : isHandle (s.reg dst).region <;> simp [Opcode.tagRule, Opcode.SparesHandles, handle, invalidArithmetic]
  | _ => exact iff_of_true (by rintro _ ⟨⟩) trivial

-- `r1 += 4`, on the context pointer.
def movesContext : Env Unit := bareEnv [0x07, 1, 0, 0, 4, 0, 0, 0]

theorem iterate_tags_ctx : TagsFollow movesContext (initial movesContext (fun _ => 0) ()) (.alu64 .add .imm) 1 0 := by
  refine (iterate_tags_iff _ _ ⟨0x07, 1, 0, 0, 4⟩ (.alu64 .add .imm) 1 0 ?_ ?_ ?_ ?_ not_false).mpr trivial
  all_goals decide +kernel

-- `r1 = map 0; r1 *= 1; exit`
def scalesHandle : Env Unit where
  prog := [0x18, 0x11, 0, 0, 0, 0, 0, 0, 0, 0, 0, 0, 0, 0, 0, 0, 0x27, 0x01, 0, 0, 1, 0, 0, 0, 0x95, 0, 0, 0, 0, 0, 0, 0]
  ctxBase := 0x1000
  ctxLen := 8
  helpers := []
  maps := [⟨0x9000, 4, 4, 0xa000, 0xa008⟩]
  readOnlyCtx := true
  instructionBudget := 10
  ctxPtrs := []
  stackBase := 0x8000
  overflowChecks := true

theorem handle_becomes_scalar : ∃ s, Running scalesHandle (fun _ => 0) () s ∧ isHandle (s.reg 1).region ∧
      tagAfter 1 (iterate scalesHandle s) = .ok none ∧ ¬TagsFollow scalesHandle s (.alu64 .mul .imm) 1 0 := by
  have start : Running scalesHandle (fun _ => 0) () (initial scalesHandle (fun _ => 0) ()) := .start (by decide)
  refine ⟨(iterate scalesHandle (initial scalesHandle (fun _ => 0) ())).2,
    start.turn (by decide) (Prod.ext (by decide +kernel) rfl), by decide +kernel, by decide +kernel, fun follows => ?_⟩
  have refused := follows (invalidArithmetic 2) (by decide +kernel)
  exact absurd refused (by decide +kernel)

end Sonde.Bpf
