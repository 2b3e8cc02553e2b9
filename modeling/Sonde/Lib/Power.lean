import Sonde.Lib.Program

/-!
# Writes under power

A computation that makes numbered writes to a store. The environment says which of them report an error and leave the
store as it was, and before which of them the power goes.
-/

namespace Sonde.Lib
open Program

structure Power where
  fails : Nat → Bool
  cut : Option Nat

namespace Power

variable {σ : Type}

def reaches (power : Power) (n : Nat) : Bool := power.cut.all (n < ·)

def works (power : Power) (n : Nat) : Bool := power.reaches n && !power.fails n

structure Writing (σ : Type) where
  store : σ
  writes : Nat

/-- `true` for a write that reported success. The computation ends here when the power is gone. -/
def write (power : Power) (edit : σ → σ) : Program (Writing σ) Unit Bool := do
  let n ← read (·.writes)
  if power.reaches n then do
    update fun s => ⟨if power.fails n then s.store else edit s.store, n + 1⟩
    return !power.fails n
  else stop ()

def writeAll (power : Power) : List (σ → σ) → Program (Writing σ) Unit Unit
  | [] => pure ()
  | edit :: edits => do
    let _ ← power.write edit
    power.writeAll edits

def leaves (power : Power) (store : σ) (n : Nat) : List (σ → σ) → σ
  | [] => store
  | edit :: edits => power.leaves (if power.works n then edit store else store) (n + 1) edits

variable {power : Power} {m n : Nat}

theorem reaches_of_le (le : m ≤ n) (reached : power.reaches n = true) : power.reaches m = true := by
  unfold reaches at *
  cases cut : power.cut with
  | none => rfl
  | some c =>
    simp only [cut, Option.all_some, decide_eq_true_eq] at *
    omega

theorem not_works_of_le (le : m ≤ n) (lost : power.reaches m = false) : power.works n = false := by
  cases reached : power.reaches n with
  | false => simp [works, reached]
  | true =>
    rw [reaches_of_le le reached] at lost
    cases lost

variable {store : σ}

theorem write_works (works : power.works n = true) (edit : σ → σ) :
    power.write edit ⟨store, n⟩ = (.ok true, ⟨edit store, n + 1⟩) := by
  simp only [Power.works, Bool.and_eq_true, Bool.not_eq_true'] at works
  simp [write, bind_run, read_run, update_run, pure_run, works.1, works.2]

theorem write_fails (reached : power.reaches n = true) (fails : power.works n = false)
    (edit : σ → σ) : power.write edit ⟨store, n⟩ = (.ok false, ⟨store, n + 1⟩) := by
  have failed : power.fails n = true := by simpa [works, reached] using fails
  simp [write, bind_run, read_run, update_run, pure_run, reached, failed]

theorem write_lost (lost : power.reaches n = false) (edit : σ → σ) :
    power.write edit ⟨store, n⟩ = (.error (), ⟨store, n⟩) := by
  simp [write, bind_run, read_run, stop_run, lost]

theorem write_edits {P Q : σ → Prop} {edit : σ → σ} (edits : ∀ store, P store → Q (edit store)) :
    Meets (fun before : Writing σ => P before.store) (power.write edit)
      (fun written after => written = true → Q after.store) fun _ => True := by
  refine ⟨fun before holds => ?_⟩
  cases reached : power.reaches before.writes with
  | false =>
    have run : power.write edit before = _ := write_lost reached edit
    rw [run]
    trivial
  | true =>
    cases works : power.works before.writes with
    | true =>
      have run : power.write edit before = _ := write_works works edit
      rw [run]
      exact fun _ => edits before.store holds
    | false =>
      have run : power.write edit before = _ := write_fails reached works edit
      rw [run]
      intro written
      cases written

theorem leaves_lost (edits : List (σ → σ)) (store : σ) (le : m ≤ n)
    (lost : power.reaches m = false) : power.leaves store n edits = store := by
  induction edits generalizing n with
  | nil => rfl
  | cons edit edits ih =>
    rw [leaves, not_works_of_le le lost]
    exact ih (by omega)

theorem writeAll_leaves (edits : List (σ → σ)) (store : σ) (n : Nat) :
    (power.writeAll edits ⟨store, n⟩).2.store = power.leaves store n edits := by
  induction edits generalizing store n with
  | nil => rfl
  | cons edit edits ih =>
    cases reached : power.reaches n with
    | false =>
      rw [leaves_lost _ _ (Nat.le_refl n) reached, writeAll, bind_run, write_lost reached]
    | true =>
      cases works : power.works n with
      | false =>
        rw [writeAll, bind_run, write_fails reached works, leaves, works]
        exact ih store (n + 1)
      | true =>
        rw [writeAll, bind_run, write_works works, leaves, works]
        exact ih (edit store) (n + 1)

variable {β : Type}

/-- A write after which the computation either goes on or tidies up. When the power goes, nothing is tidied, and no later
write works. -/
theorem write_or_tidy {edit : σ → σ} {go : Program (Writing σ) Unit β} {tidy : List (σ → σ)} {give : β} :
    ((do if ← power.write edit then go else do power.writeAll tidy; return give) ⟨store, n⟩).2.store =
      if power.works n then (go ⟨edit store, n + 1⟩).2.store else power.leaves store (n + 1) tidy := by
  cases works : power.works n with
  | true => rw [bind_run, write_works works]; rfl
  | false =>
    cases reached : power.reaches n with
    | false =>
      rw [bind_run, write_lost reached, leaves_lost tidy store (Nat.le_succ n) reached]
      rfl
    | true =>
      rw [bind_run, write_fails reached works, ← writeAll_leaves tidy store (n + 1)]
      simp only [Bool.false_eq_true, if_false, bind_run]
      cases power.writeAll tidy ⟨store, n + 1⟩ with
      | mk result rest => cases result <;> rfl

end Power

end Sonde.Lib
