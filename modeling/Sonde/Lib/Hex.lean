import Mathlib.Data.List.Lex
import Mathlib.Tactic.Common
import Mathlib.Tactic.IntervalCases

namespace Sonde.Lib
open Nat

def fixedHex : Nat → Nat → List Char
  | 0, _ => []
  | width + 1, n => digitChar (n / 16 ^ width) :: fixedHex width (n % 16 ^ width)

theorem fixedHex_length (width n : Nat) : (fixedHex width n).length = width := by
  induction width generalizing n with
  | zero => rfl
  | succ width ih => rw [fixedHex, List.length_cons, ih]

theorem digitChar_lt_iff {m n : Nat} (left : m < 16) (right : n < 16) : digitChar m < digitChar n ↔ m < n := by
  interval_cases m <;> interval_cases n <;> decide

theorem digitChar_eq_iff {m n : Nat} (left : m < 16) (right : n < 16) : digitChar m = digitChar n ↔ m = n := by
  constructor
  · intro same
    have below := mt (digitChar_lt_iff left right).mpr (same ▸ Char.lt_irrefl _)
    have above := mt (digitChar_lt_iff right left).mpr (same ▸ Char.lt_irrefl _)
    omega
  · rintro rfl
    rfl

theorem fixedHex_lt_iff {width m n : Nat} (left : m < 16 ^ width) (right : n < 16 ^ width) :
    fixedHex width m < fixedHex width n ↔ m < n := by
  induction width generalizing m n with
  | zero => exact iff_of_false (List.not_lt_nil []) (by omega)
  | succ width ih =>
    have pos : 0 < 16 ^ width := Nat.pow_pos (by decide)
    have digit : ∀ {k}, k < 16 ^ (width + 1) → k / 16 ^ width < 16 := fun {k} below => by
      rw [div_lt_iff_lt_mul pos, ← pow_succ']
      exact below
    rw [fixedHex, fixedHex, List.cons_lt_cons_iff, digitChar_lt_iff (digit left) (digit right),
      digitChar_eq_iff (digit left) (digit right), ih (mod_lt m pos) (mod_lt n pos)]
    have first := div_add_mod m (16 ^ width)
    have second := div_add_mod n (16 ^ width)
    constructor
    · rintro (less | ⟨same, less⟩)
      · have := mul_le_mul_left (16 ^ width) less
        rw [succ_eq_add_one, mul_add, mul_one] at this
        omega
      · rw [same] at first
        omega
    · intro less
      rcases lt_trichotomy (m / 16 ^ width) (n / 16 ^ width) with below | same | above
      · exact .inl below
      · rw [same] at first
        exact .inr ⟨same, by omega⟩
      · have := mul_le_mul_left (16 ^ width) above
        rw [succ_eq_add_one, mul_add, mul_one] at this
        omega

theorem append_lt_append_of_lt {α : Type*} [LT α] {a b : List α} (length : a.length = b.length) (less : a < b)
    (x y : List α) : a ++ x < b ++ y := by
  induction a generalizing b with
  | nil =>
    obtain rfl := List.length_eq_zero_iff.mp length.symm
    exact absurd less (List.not_lt_nil [])
  | cons first a ih =>
    cases b with
    | nil => cases length
    | cons second b =>
      rw [List.cons_append, List.cons_append, List.cons_lt_cons_iff]
      rcases List.cons_lt_cons_iff.mp less with smaller | ⟨same, rest⟩
      · exact .inl smaller
      · exact .inr ⟨same, ih (succ.inj length) rest⟩

end Sonde.Lib
