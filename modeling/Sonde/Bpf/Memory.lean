import Mathlib

namespace Sonde.Bpf
open List

def Mem := BitVec 64 → BitVec 8

namespace Mem

def load (mem : Mem) (addr : BitVec 64) : Nat → BitVec 64
  | 0 => 0
  | n + 1 => (mem addr).setWidth 64 ||| (load mem (addr + 1) n <<< 8)

def store (mem : Mem) (addr : BitVec 64) : Nat → BitVec 64 → Mem
  | 0, _ => mem
  | n + 1, val => store (Function.update mem addr (val.setWidth 8)) (addr + 1) n (val >>> 8)

def slice (mem : Mem) (addr : BitVec 64) : Nat → List (BitVec 8)
  | 0 => []
  | n + 1 => mem addr :: slice mem (addr + 1) n

def write (mem : Mem) (addr : BitVec 64) : List (BitVec 8) → Mem
  | [] => mem
  | b :: bytes => write (Function.update mem addr b) (addr + 1) bytes

def zero (mem : Mem) (addr : BitVec 64) (n : Nat) : Mem := fun a => if (a - addr).toNat < n then 0 else mem a

variable {addr : BitVec 64} {mem : Mem} {n : Nat}

theorem store_apart {a : BitVec 64} {val : BitVec 64} (apart : ¬(a - addr).toNat < n) :
    mem.store addr n val a = mem a := by
  induction n generalizing mem addr val with
  | zero => rfl
  | succ n ih =>
    have other : a ≠ addr := by
      rintro rfl
      simp at apart
    have rest : ¬(a - (addr + 1)).toNat < n := by bv_omega
    exact (ih rest).trans (Function.update_of_ne other _ _)

theorem load_store {val : BitVec 64} (fits : n ≤ 8) :
    (mem.store addr n val).load addr n = (val.setWidth (8 * n)).setWidth 64 := by
  induction n generalizing mem addr val with
  | zero =>
    ext i
    simp [load]
  | succ n ih =>
    have first : mem.store addr (n + 1) val addr = val.setWidth 8 := by
      have below : ¬(addr - (addr + 1)).toNat < n := by bv_omega
      exact (store_apart below).trans (Function.update_self ..)
    have rest : (mem.store addr (n + 1) val).load (addr + 1) n = ((val >>> 8).setWidth (8 * n)).setWidth 64 := ih (by omega)
    rw [load, first, rest]
    ext i bound
    by_cases low : i < 8
    · simp [low, show i < 8 * (n + 1) by omega]
    · have shift : 8 + (i - 8) = i := by omega
      have width : i - 8 < 8 * n ↔ i < 8 * (n + 1) := by omega
      simp [low, shift, width]

theorem load_congr {mem' : Mem} (fits : n ≤ 2 ^ 64)
    (same : ∀ a : BitVec 64, (a - addr).toNat < n → mem a = mem' a) : mem.load addr n = mem'.load addr n := by
  induction n generalizing addr with
  | zero => rfl
  | succ n ih =>
    rw [load, load, same addr (by simp), ih (by omega)]
    intro a inside
    exact same a (by bv_omega)

variable {bytes : List (BitVec 8)}

theorem write_apply (short : bytes.length ≤ 2 ^ 64)
    (a : BitVec 64) : mem.write addr bytes a = bytes[(a - addr).toNat]?.getD (mem a) := by
  induction bytes generalizing mem addr with
  | nil => rfl
  | cons b bytes ih =>
    rw [length_cons] at short
    refine (ih (by omega)).trans ?_
    by_cases same : a = addr
    · subst same
      have beyond : bytes.length ≤ (a - (a + 1)).toNat := by bv_omega
      have first : (a - a).toNat = 0 := by simp
      rw [getElem?_eq_none beyond, first]
      exact Function.update_self ..
    · have next : (a - addr).toNat = (a - (addr + 1)).toNat + 1 := by bv_omega
      rw [next, getElem?_cons_succ]
      exact congrArg _ (Function.update_of_ne same _ _)

theorem write_apart {a : BitVec 64} (short : bytes.length ≤ 2 ^ 64)
    (apart : ¬(a - addr).toNat < bytes.length) : mem.write addr bytes a = mem a := by
  rw [write_apply short, getElem?_eq_none (by omega), Option.getD_none]

@[simp] theorem length_slice (mem : Mem) (addr : BitVec 64) (n : Nat) : (mem.slice addr n).length = n := by
  induction n generalizing addr with
  | zero => rfl
  | succ n ih => rw [slice, length_cons, ih]

theorem getElem?_slice {k : Nat} (bound : k < n) : (mem.slice addr n)[k]? = some (mem (addr + BitVec.ofNat 64 k)) := by
  induction n generalizing addr k with
  | zero => omega
  | succ n ih =>
    cases k with
    | zero => simp [slice]
    | succ k =>
      have next : addr + 1 + BitVec.ofNat 64 k = addr + BitVec.ofNat 64 (k + 1) := by bv_omega
      rw [slice, getElem?_cons_succ, ih (by omega), next]

theorem slice_eq (same : ∀ k, k < bytes.length → mem (addr + BitVec.ofNat 64 k) = bytes[k]?.getD 0) :
    mem.slice addr bytes.length = bytes := by
  refine ext_getElem? fun k => ?_
  by_cases bound : k < bytes.length
  · rw [getElem?_slice bound, same k bound, getElem?_eq_getElem bound]
    rfl
  · rw [getElem?_eq_none (by rw [length_slice]; omega), getElem?_eq_none (by omega)]

theorem slice_congr {mem' : Mem} (same : ∀ k, k < n → mem (addr + BitVec.ofNat 64 k) = mem' (addr + BitVec.ofNat 64 k)) :
    mem.slice addr n = mem'.slice addr n := by
  have length : (mem'.slice addr n).length = n := length_slice ..
  refine (congrArg _ length.symm).trans (slice_eq fun k bound => ?_)
  rw [length] at bound
  rw [same k bound, getElem?_slice bound]
  rfl

end Mem

end Sonde.Bpf
