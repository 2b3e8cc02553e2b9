import Mathlib.Tactic.Common

namespace Sonde.Lib
universe u v
variable {ε : Type u} {α β : Type v}

theorem bind_eq_ok {x : Except ε α} {f : α → Except ε β} {b : β} : x >>= f = .ok b ↔ ∃ a, x = .ok a ∧ f a = .ok b := by
  cases x <;> simp [bind, Except.bind]

theorem mapError_eq_ok {δ : Type u} {f : ε → δ} {x : Except ε α} {a : α} : x.mapError f = .ok a ↔ x = .ok a := by
  cases x <;> simp [Except.mapError]

theorem forM_ok {δ : Type v} {f : δ → Except ε PUnit} {xs : List δ} (ok : xs.forM f = .ok ⟨⟩) {x : δ} (member : x ∈ xs) :
    f x = .ok ⟨⟩ := by
  induction xs with
  | nil => cases member
  | cons first rest ih =>
    obtain ⟨_, done, others⟩ := bind_eq_ok.mp (show (f first >>= fun _ => rest.forM f) = .ok ⟨⟩ from ok)
    rcases List.mem_cons.mp member with rfl | later
    · exact done
    · exact ih others later

theorem foldlM_keeps {σ δ : Type v} {f : σ → δ → Except ε σ} {P : σ → Prop}
    (step : ∀ {s x s'}, P s → f s x = .ok s' → P s') {xs : List δ} {s s' : σ} (start : P s)
    (ok : xs.foldlM f s = .ok s') : P s' := by
  induction xs generalizing s with
  | nil =>
    cases ok
    exact start
  | cons x xs ih =>
    rw [List.foldlM_cons, bind_eq_ok] at ok
    obtain ⟨next, first, rest⟩ := ok
    exact ih (step start first) rest

theorem toOption_mapError {δ : Type u} (f : ε → δ) (x : Except ε α) : (x.mapError f).toOption = x.toOption := by
  cases x <;> rfl

@[simp] theorem pure_eq_ok (a : α) : (pure a : Except ε α) = .ok a := rfl

end Sonde.Lib
