import Mathlib.Tactic.Common
import Mathlib.Tactic.Ring
import Mathlib.Algebra.Order.Ring.Nat

namespace Sonde.Lib

abbrev Bytes := List (BitVec 8)

abbrev Bytes32 := BitVec 256

def toBigEndian : Nat → Nat → Bytes
  | 0, _ => []
  | width + 1, n => BitVec.ofNat 8 (n / 256 ^ width) :: toBigEndian width n

def ofBigEndian (bytes : Bytes) : Nat := bytes.foldl (fun n b => 256 * n + b.toNat) 0

@[simp] theorem length_toBigEndian (width n : Nat) : (toBigEndian width n).length = width := by
  induction width with
  | zero => rfl
  | succ width ih => simp [toBigEndian, ih]

theorem foldl_toBigEndian (width n acc : Nat) :
    (toBigEndian width n).foldl (fun n b => 256 * n + b.toNat) acc = 256 ^ width * acc + n % 256 ^ width := by
  induction width generalizing acc with
  | zero => simp [toBigEndian, Nat.mod_one]
  | succ width ih =>
    have split : n % 256 ^ (width + 1) = n % 256 ^ width + 256 ^ width * (n / 256 ^ width % 256) := Nat.mod_pow_succ
    rw [toBigEndian, List.foldl_cons, ih, split, BitVec.toNat_ofNat]
    ring

theorem ofBigEndian_toBigEndian {width n : Nat} (fits : n < 256 ^ width) : ofBigEndian (toBigEndian width n) = n := by
  rw [ofBigEndian, foldl_toBigEndian, Nat.mod_eq_of_lt fits]
  simp

theorem foldl_div (bytes : Bytes) (acc : Nat) :
    bytes.foldl (fun n b => 256 * n + b.toNat) acc / 256 ^ bytes.length = acc := by
  induction bytes generalizing acc with
  | nil => simp
  | cons b bytes ih =>
    rw [List.foldl_cons, List.length_cons, pow_succ, ← Nat.div_div_eq_div_mul, ih]
    omega

theorem toBigEndian_foldl (bytes : Bytes) (acc : Nat) :
    toBigEndian bytes.length (bytes.foldl (fun n b => 256 * n + b.toNat) acc) = bytes := by
  induction bytes generalizing acc with
  | nil => rfl
  | cons b bytes ih =>
    have first : BitVec.ofNat 8 (256 * acc + b.toNat) = b := by
      apply BitVec.eq_of_toNat_eq
      rw [BitVec.toNat_ofNat]
      omega
    rw [List.foldl_cons, List.length_cons, toBigEndian, foldl_div, first, ih]

theorem toBigEndian_ofBigEndian {bytes : Bytes} {width w : Nat} (size : bytes.length = width) (wide : 256 ^ width = 2 ^ w) :
    toBigEndian width (BitVec.ofNat w (ofBigEndian bytes)).toNat = bytes := by
  subst size
  have fits : ofBigEndian bytes < 256 ^ bytes.length := Nat.lt_of_div_eq_zero (Nat.pow_pos (by decide)) (foldl_div bytes 0)
  rw [BitVec.toNat_ofNat, Nat.mod_eq_of_lt (wide ▸ fits)]
  exact toBigEndian_foldl bytes 0

end Sonde.Lib
