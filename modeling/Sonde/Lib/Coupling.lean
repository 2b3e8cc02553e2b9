import Sonde.Lib.Program

namespace Sonde.Lib.Program
universe u
variable {σ ε : Type*} {α β : Type u}

/-- From related states, two computations leave the same way with the same result, in states related by `post` after a
normal exit and by `left` after an early one. -/
structure Couples (pre : σ → σ → Prop) (m n : Program σ ε α) (post : α → σ → σ → Prop) (left : σ → σ → Prop) : Prop where
  exits : ∀ s t, pre s t → match m s, n t with
    | (.ok a, s'), (.ok b, t') => a = b ∧ post a s' t'
    | (.error e, s'), (.error f, t') => e = f ∧ left s' t'
    | _, _ => False

variable {pre left : σ → σ → Prop} {post : α → σ → σ → Prop}

theorem Couples.pure {a : α} (h : ∀ s t, pre s t → post a s t) :
    Couples pre (Pure.pure a : Program σ ε α) (Pure.pure a) post left :=
  ⟨fun s t related => ⟨rfl, h s t related⟩⟩

theorem Couples.stop {e : ε} (h : ∀ s t, pre s t → left s t) :
    Couples pre (Program.stop e : Program σ ε α) (Program.stop e) post left :=
  ⟨fun s t related => ⟨rfl, h s t related⟩⟩

theorem Couples.read {f g : σ → α} (same : ∀ s t, pre s t → f s = g t) :
    Couples pre (Program.read f : Program σ ε α) (Program.read g) (fun _ => pre) left :=
  ⟨fun s t related => ⟨same s t related, related⟩⟩

theorem Couples.update {f g : σ → σ} {Q : Unit → σ → σ → Prop} (h : ∀ s t, pre s t → Q () (f s) (g t)) :
    Couples pre (Program.update f : Program σ ε Unit) (Program.update g) Q left :=
  ⟨fun s t related => ⟨rfl, h s t related⟩⟩

theorem Couples.outcomes {m n : Program σ ε α} {s t : σ} (couples : Couples pre m n post left) (related : pre s t) :
    (∃ a s' t', m s = (.ok a, s') ∧ n t = (.ok a, t') ∧ post a s' t') ∨
      ∃ e s' t', m s = (.error e, s') ∧ n t = (.error e, t') ∧ left s' t' := by
  have exits := couples.exits s t related
  revert exits
  rcases m s with ⟨e | a, s'⟩ <;> rcases n t with ⟨f | b, t'⟩
  · rintro ⟨rfl, holds⟩
    exact .inr ⟨e, s', t', rfl, rfl, holds⟩
  · exact False.elim
  · exact False.elim
  · rintro ⟨rfl, holds⟩
    exact .inl ⟨a, s', t', rfl, rfl, holds⟩

theorem Couples.bind {m n : Program σ ε α} {f k : α → Program σ ε β} {Q : α → σ → σ → Prop} {R : β → σ → σ → Prop}
    (first : Couples pre m n Q left) (rest : ∀ a, Couples (Q a) (f a) (k a) R left) :
    Couples pre (m >>= f) (n >>= k) R left := by
  refine ⟨fun s t related => ?_⟩
  rcases first.outcomes related with ⟨a, s', t', run, run', holds⟩ | ⟨e, s', t', run, run', holds⟩
  · rw [bind_run, bind_run, run, run']
    exact (rest a).exits s' t' holds
  · rw [bind_run, bind_run, run, run']
    exact ⟨rfl, holds⟩

theorem Couples.ite {c d : Prop} [Decidable c] [Decidable d] {m n m' n' : Program σ ε α} (same : c ↔ d)
    (yes : c → Couples pre m m' post left) (no : ¬c → Couples pre n n' post left) :
    Couples pre (if c then m else n) (if d then m' else n') post left := by
  by_cases holds : c
  · rw [if_pos holds, if_pos (same.mp holds)]
    exact yes holds
  · rw [if_neg holds, if_neg fun there => holds (same.mpr there)]
    exact no holds

theorem Couples.conseq {m n : Program σ ε α} {pre' left' : σ → σ → Prop} {post' : α → σ → σ → Prop}
    (couples : Couples pre' m n post' left') (before : ∀ s t, pre s t → pre' s t)
    (after : ∀ a s t, post' a s t → post a s t) (early : ∀ s t, left' s t → left s t) : Couples pre m n post left := by
  refine ⟨fun s t related => ?_⟩
  rcases couples.outcomes (before s t related) with ⟨a, s', t', run, run', holds⟩ | ⟨e, s', t', run, run', holds⟩
  · rw [run, run']
    exact ⟨rfl, after a s' t' holds⟩
  · rw [run, run']
    exact ⟨rfl, early s' t' holds⟩

theorem Couples.read_bind {f k : σ → α} {m n : α → Program σ ε β} {R : β → σ → σ → Prop}
    (h : ∀ s t, pre s t → Couples pre (m (f s)) (n (k t)) R left) :
    Couples pre (Program.read f >>= m) (Program.read k >>= n) R left :=
  ⟨fun s t related => (h s t related).exits s t related⟩

abbrev Parallel (R : σ → σ → Prop) (m n : Program σ ε α) : Prop := Couples R m n (fun _ => R) R

theorem Couples.ends {m n : Program σ ε α} {R : σ → σ → Prop} (couples : Couples pre m n (fun _ => R) R) {s t : σ}
    (related : pre s t) : (m s).1 = (n t).1 ∧ R (m s).2 (n t).2 := by
  rcases couples.outcomes related with ⟨a, s', t', run, run', holds⟩ | ⟨e, s', t', run, run', holds⟩
  · rw [run, run']
    exact ⟨rfl, holds⟩
  · rw [run, run']
    exact ⟨rfl, holds⟩

end Sonde.Lib.Program
