import Sonde.Bpf.Alu
import Sonde.Bpf.Rfc9669

/-!
# Values of the interpreter against RFC 9669

The interpreter computes on bit vectors and bytes what the standard says about numbers.
-/

namespace Sonde.Bpf
open Rfc9669 BitVec

/-! ## Words -/

section
variable {w : Nat} (x y : BitVec w)

theorem toNat_zero_iff : y.toNat = 0 ↔ y = 0 := by
  constructor
  · intro zero
    exact eq_of_toNat_eq (by simpa using zero)
  · rintro rfl
    simp

theorem quotient_unsigned : quotient false x y = if y = 0 then 0 else x / y := by
  simp only [quotient, toNat_zero_iff, Bool.false_eq_true, if_false]
  split
  · rfl
  · exact eq_of_toNat_eq (by
      exact Nat.mod_eq_of_lt (Nat.lt_of_le_of_lt (Nat.div_le_self _ _) x.isLt))

theorem remainder_unsigned : remainder false x y = if y ≠ 0 then x % y else x := by
  simp only [remainder, toNat_zero_iff, Bool.false_eq_true, if_false, ne_eq, ite_not]
  split
  · rfl
  · exact eq_of_toNat_eq (by
      exact Nat.mod_eq_of_lt (Nat.lt_of_le_of_lt (Nat.mod_le _ _) x.isLt))

theorem quotient_signed (wide : 0 < w) : quotient true x y = if y = 0 then 0 else x.sdiv y := by
  simp only [quotient, toNat_zero_iff, if_true]
  split
  · rfl
  split
  · rename_i least
    apply eq_of_toInt_eq
    rw [toInt_sdiv, least.1, least.2]
    have cast : ((2 ^ w : Nat) : Int) = 2 * 2 ^ (w - 1) := by
      rw [← Int.pow_succ', Nat.sub_add_cancel wide]
      norm_cast
    have bound : 0 < (2 : Int) ^ (w - 1) := Int.pow_pos (by decide)
    rw [Int.tdiv_neg, Int.tdiv_one, Int.neg_neg, Int.bmod, cast, Int.emod_eq_of_lt (by omega) (by omega), if_neg (by omega)]
    omega
  · apply eq_of_toInt_eq
    rw [toInt_sdiv, toInt_ofInt]

theorem remainder_signed : remainder true x y = if y ≠ 0 then x.srem y else x := by
  simp only [remainder, toNat_zero_iff, if_true, ne_eq, ite_not]
  split
  · rfl
  apply eq_of_toInt_eq
  split
  · rename_i least
    rw [toInt_srem, least.2, Int.tmod_neg, Int.tmod_one]
    simp
  · rw [← toInt_srem, ofInt_toInt]

variable (off : Nat)

@[simp] theorem arithmetic_add : arithmetic .add off x y = x + y := by
  simp [arithmetic, ofNat_add]

@[simp] theorem arithmetic_sub : arithmetic .sub off x y = x - y := by
  simp [arithmetic, Int.sub_eq_add_neg, ofInt_add, ofInt_neg, sub_eq_add_neg]

@[simp] theorem arithmetic_mul : arithmetic .mul off x y = x * y := by
  simp [arithmetic, ofNat_mul]

@[simp] theorem arithmetic_neg : arithmetic .neg off x y = -x := by
  simp [arithmetic, ofInt_neg]

@[simp] theorem arithmetic_lsh : arithmetic .lsh off x y = x <<< (y.toNat % w) := by
  apply eq_of_toNat_eq
  rw [toNat_shiftLeft, Nat.shiftLeft_eq, arithmetic, toNat_ofNat]

@[simp] theorem arithmetic_rsh : arithmetic .rsh off x y = x >>> (y.toNat % w) := by
  apply eq_of_toNat_eq
  rw [toNat_ushiftRight, Nat.shiftRight_eq_div_pow, arithmetic, toNat_ofNat]
  exact Nat.mod_eq_of_lt (Nat.lt_of_le_of_lt (Nat.div_le_self _ _) x.isLt)

@[simp] theorem arithmetic_arsh : arithmetic .arsh off x y = x.sshiftRight (y.toNat % w) := by
  rw [sshiftRight, Int.shiftRight_eq_div_pow, arithmetic]
  norm_cast

theorem arithmetic_movsx {off v : Nat} (b : BitVec v) (some : off ≠ 0) (narrow : off ≤ w) :
    arithmetic .mov off x (b.setWidth w) = (b.setWidth off).signExtend w := by
  have divides : ((2 ^ off : Nat) : Int) ∣ (2 ^ w : Nat) := by exact_mod_cast Nat.pow_dvd_pow 2 narrow
  rw [arithmetic, if_neg some, signExtend, toInt_eq_toNat_bmod, toNat_setWidth,
    toNat_setWidth, Int.natCast_emod, Int.natCast_emod, Int.emod_bmod, ← Int.emod_bmod,
    Int.emod_emod_of_dvd _ divides, Int.emod_bmod]

end

variable {w : Nat}

theorem holds_condition (op : JmpOp) (x y : BitVec w) : op.holds x y = condition op x y := by
  cases op
  all_goals simp [JmpOp.holds, condition, slt_eq_decide, sle_eq_decide, BitVec.ult, BitVec.ule,
    ← toNat_eq, bne, beq_eq_decide]

theorem mask_mod (y : BitVec w) (n : Nat) (small : 2 ^ n ≤ 2 ^ w) :
    (y &&& BitVec.ofNat w (2 ^ n - 1)).toNat = y.toNat % 2 ^ n := by
  have positive : 0 < 2 ^ n := Nat.two_pow_pos n
  rw [toNat_and, toNat_ofNat, Nat.mod_eq_of_lt (by omega), Nat.and_two_pow_sub_one_eq_mod]

variable {op : AluOp} {off : BitVec 16} {source : Source}

theorem variants_signed {width : Width}
    (divides : op = .div ∨ op = .mod) (listed : (variants width op source).contains off.toNat) : off = 0 ∨ off = 1 := by
  rcases divides with rfl | rfl
  all_goals
    simp [variants] at listed
    bv_omega

theorem alu32_arithmetic (d b : BitVec 64) (listed : (variants .word op source).contains off.toNat) :
    alu32 op source off d b = some (arithmetic op off.toNat (d.setWidth 32) (b.setWidth 32)) := by
  have mask : ((b.setWidth 32) &&& 0x1f).toNat = (b.setWidth 32).toNat % 32 := mask_mod _ 5 (by decide)
  cases op with
  | lsh | rsh | arsh =>
    simp only [alu32, arithmetic_lsh, arithmetic_rsh, arithmetic_arsh, shiftLeft_eq', ushiftRight_eq', mask]
  | div =>
    rcases variants_signed (.inl rfl) listed with rfl | rfl
    · simp [alu32, arithmetic, quotient_unsigned]
    · simp [alu32, arithmetic, quotient_signed]
  | mod =>
    rcases variants_signed (.inr rfl) listed with rfl | rfl
    · simp [alu32, arithmetic, remainder_unsigned]
    · simp [alu32, arithmetic, remainder_signed]
  | mov =>
    cases source with
    | imm =>
      obtain rfl : off = 0 := by
        simp [variants] at listed
        bv_omega
      simp [alu32, arithmetic]
    | reg =>
      have variant : off = 0 ∨ off = 8 ∨ off = 16 := by
        simp [variants] at listed
        bv_omega
      rcases variant with rfl | rfl | rfl
      · simp [alu32, arithmetic]
      · exact congrArg some (arithmetic_movsx _ b (by decide) (by decide)).symm
      · exact congrArg some (arithmetic_movsx _ b (by decide) (by decide)).symm
  | or | and | xor => rfl
  | add | sub | mul | neg => simp only [alu32, arithmetic_add, arithmetic_sub, arithmetic_mul, arithmetic_neg]

theorem alu64_arithmetic {insn : Insn} (pc : Nat) {d b : TaggedReg} (plain : d.region = none) (plain' : b.region = none)
    (listed : (variants .double op source).contains insn.off.toNat) :
    alu64 op source insn pc d b = .ok (.scalar (arithmetic op insn.off.toNat d.value b.value)) := by
  have mask : ((b.value.setWidth 32) &&& 0x3f).toNat = b.value.toNat % 64 := by
    rw [show (0x3f : BitVec 32) = BitVec.ofNat 32 (2 ^ 6 - 1) from rfl, mask_mod _ 6 (by decide), toNat_setWidth]
    omega
  cases op with
  | add | sub =>
    simp only [alu64, addRegion, subRegion, plain, plain', Except.map, arithmetic_add, arithmetic_sub, TaggedReg.scalar]
  | or | and | xor =>
    simp [alu64, bitwise, plain, plain', arithmetic, TaggedReg.scalar]
  | lsh | rsh | arsh =>
    simp only [alu64, arithmetic_lsh, arithmetic_rsh, arithmetic_arsh, shiftLeft_eq', ushiftRight_eq', mask]
  | div =>
    rcases variants_signed (.inl rfl) listed with off | off
    · simp [alu64, arithmetic, quotient_unsigned, off]
    · simp [alu64, arithmetic, quotient_signed, off]
  | mod =>
    rcases variants_signed (.inr rfl) listed with off | off
    · simp [alu64, arithmetic, remainder_unsigned, off]
    · simp [alu64, arithmetic, remainder_signed, off]
  | mov =>
    cases source with
    | imm =>
      have off : insn.off.toNat = 0 := by simpa [variants] using listed
      simp [alu64, arithmetic, off]
    | reg =>
      obtain ⟨opc, dst, src, off, imm⟩ := insn
      have variant : off = 0 ∨ off = 8 ∨ off = 16 ∨ off = 32 := by
        simp [variants] at listed
        bv_omega
      have whole : b = .scalar b.value := by rw [TaggedReg.scalar, ← plain']
      rw [← setWidth_eq b.value]
      rcases variant with rfl | rfl | rfl | rfl
      · simp [alu64, arithmetic, ← whole]
      all_goals
        dsimp only
        rw [arithmetic_movsx d.value b.value (by decide) (by decide)]
        rfl
  | mul | neg => simp only [alu64, arithmetic_mul, arithmetic_neg]

/-! ## Bytes -/

theorem reversed_lt (n v : Nat) : reversed n v < 256 ^ n := by
  induction n generalizing v with
  | zero => simp [reversed]
  | succ n ih =>
    have rest := ih (v / 256)
    calc reversed (n + 1) v = v % 256 * 256 ^ n + reversed n (v / 256) := rfl
      _ < v % 256 * 256 ^ n + 256 ^ n := by omega
      _ = (v % 256 + 1) * 256 ^ n := by rw [Nat.add_mul, Nat.one_mul]
      _ ≤ 256 * 256 ^ n := Nat.mul_le_mul_right _ (by omega)
      _ = 256 ^ (n + 1) := (Nat.pow_succ').symm

variable {n : Nat}

theorem swapBytes_reversed (v : BitVec 64) (fits : n ≤ 8) : (swapBytes n v).toNat = reversed n v.toNat := by
  induction n generalizing v with
  | zero => rfl
  | succ n ih =>
    have rest := ih (v >>> 8) (by omega)
    have low : (v >>> 8).toNat = v.toNat / 256 := by simp [Nat.shiftRight_eq_div_pow]
    have byte : (v &&& 0xff).toNat = v.toNat % 256 := mask_mod v 8 (by decide)
    have bound := reversed_lt n (v.toNat / 256)
    have pow : 256 ^ n = 2 ^ (8 * n) := by rw [Nat.pow_mul]
    have room : v.toNat % 256 * 2 ^ (8 * n) < 2 ^ 64 := by
      calc v.toNat % 256 * 2 ^ (8 * n) < 2 ^ 8 * 2 ^ (8 * n) :=
            Nat.mul_lt_mul_of_pos_right (by omega) (Nat.two_pow_pos _)
        _ = 2 ^ (8 + 8 * n) := (Nat.pow_add ..).symm
        _ ≤ 2 ^ 64 := Nat.pow_le_pow_right (by decide) (by omega)
    rw [swapBytes, toNat_or, toNat_shiftLeft, byte, rest, low, Nat.shiftLeft_eq, Nat.mod_eq_of_lt room,
      ← Nat.shiftLeft_eq, ← Nat.shiftLeft_add_eq_or_of_lt (by rwa [pow] at bound), Nat.shiftLeft_eq, reversed, pow]

variable (mem : Mem) (addr : BitVec 64)

theorem value_lt (n : Nat) : value mem addr n < 256 ^ n := by
  induction n generalizing addr with
  | zero => simp [value]
  | succ n ih =>
    have rest := ih (addr + 1)
    rw [value, Nat.pow_succ']
    omega

theorem load_value (fits : n ≤ 8) : (mem.load addr n).toNat = value mem addr n := by
  induction n generalizing addr with
  | zero => rfl
  | succ n ih =>
    have rest := ih (addr + 1) (by omega)
    have byte := (mem addr).isLt
    have bound := value_lt mem (addr + 1) n
    have room : value mem (addr + 1) n * 2 ^ 8 < 2 ^ 64 := by
      calc value mem (addr + 1) n * 2 ^ 8 < 256 ^ n * 2 ^ 8 := Nat.mul_lt_mul_of_pos_right bound (by decide)
        _ = 256 ^ (n + 1) := (Nat.pow_succ ..).symm
        _ ≤ 256 ^ 8 := Nat.pow_le_pow_right (by decide) fits
    rw [Mem.load, toNat_or, toNat_setWidth, toNat_shiftLeft, rest, Nat.shiftLeft_eq,
      Nat.mod_eq_of_lt room, Nat.mod_eq_of_lt (by omega), Nat.or_comm, ← Nat.shiftLeft_eq,
      ← Nat.shiftLeft_add_eq_or_of_lt byte, Nat.shiftLeft_eq, value]
    omega

theorem store_written (addr val : BitVec 64) (fits : n ≤ 8) : mem.store addr n val = written mem addr n val.toNat := by
  induction n generalizing mem addr val with
  | zero => rfl
  | succ n ih =>
    refine (ih _ _ _ (by omega)).trans ?_
    funext a
    have shifted : (val >>> 8).toNat = val.toNat / 256 := by simp [Nat.shiftRight_eq_div_pow]
    simp only [written, shifted]
    by_cases first : a = addr
    · subst first
      have last : (a - (a + 1)).toNat = 2 ^ 64 - 1 := by bv_omega
      rw [if_neg (by omega), if_pos (by simp)]
      refine (Function.update_self ..).trans ?_
      simp
    · have next : (a - addr).toNat = (a - (addr + 1)).toNat + 1 := by bv_omega
      rw [next, Nat.pow_succ', Nat.div_div_eq_div_mul]
      by_cases inside : (a - (addr + 1)).toNat < n
      · rw [if_pos inside, if_pos (by omega)]
      · rw [if_neg inside, if_neg (by omega)]
        exact Function.update_of_ne first _ _

theorem written_mod (v : Nat) (fits : n ≤ 8) : written mem addr n (v % 2 ^ 64) = written mem addr n v := by
  funext a
  simp only [written]
  split
  · rename_i inside
    generalize (a - addr).toNat = i at inside
    apply eq_of_toNat_eq
    have word : 2 ^ 64 = 256 ^ 8 := by decide
    have split : 256 ^ 8 = 256 ^ i * 256 ^ (8 - i) := by
      rw [← Nat.pow_add, show i + (8 - i) = 8 by omega]
    have byte : 256 ^ 1 ∣ 256 ^ (8 - i) := Nat.pow_dvd_pow 256 (by omega)
    rw [toNat_ofNat, toNat_ofNat, word, split, Nat.mod_mul_right_div_self]
    exact Nat.mod_mod_of_dvd _ byte
  · rfl

variable {imm : BitVec 32}

theorem byteSwap_truncates (v : BitVec 64) (listed : [16, 32, 64].contains imm.toNat) :
    byteSwap false imm v = some (.ofNat 64 (v.toNat % 2 ^ imm.toNat)) := by
  have widths : imm = 16 ∨ imm = 32 ∨ imm = 64 := by
    simp at listed
    bv_omega
  have truncated (n : Nat) : (v.setWidth n).setWidth 64 = BitVec.ofNat 64 (v.toNat % 2 ^ n) := by
    rw [← ofNat_toNat, toNat_setWidth]
  rcases widths with rfl | rfl | rfl
  · exact congrArg some (truncated 16)
  · exact congrArg some (truncated 32)
  · exact congrArg some (truncated 64)

theorem byteSwap_reverses (v : BitVec 64) (listed : [16, 32, 64].contains imm.toNat) :
    byteSwap true imm v = some (.ofNat 64 (reversed (imm.toNat / 8) v.toNat)) := by
  have widths : imm = 16 ∨ imm = 32 ∨ imm = 64 := by
    simp at listed
    bv_omega
  rcases widths with rfl | rfl | rfl
  all_goals
    rw [← swapBytes_reversed v (by decide), ofNat_toNat, setWidth_eq]
    rfl

end Sonde.Bpf
