import Mathlib.Logic.Basic

namespace Sonde.Lib

/-- A stateful computation that may leave early with an `ε`. The state it has reached is kept on
both exits, as the effects of a Rust function are when `?` returns. -/
def Program (σ ε α : Type*) := σ → Except ε α × σ

namespace Program
universe u

variable {σ ε : Type*} {α β : Type u}

instance : Monad (Program σ ε) where
  pure a := fun s => (.ok a, s)
  bind m f := fun s =>
    match m s with
    | (.ok a, s') => f a s'
    | (.error e, s') => (.error e, s')

def stop (e : ε) : Program σ ε α := fun s => (.error e, s)

def read (f : σ → α) : Program σ ε α := fun s => (.ok (f s), s)

def update (f : σ → σ) : Program σ ε Unit := fun s => (.ok (), f s)

def ofExcept : Except ε α → Program σ ε α
  | .ok a => pure a
  | .error e => stop e

def attempt {ε' : Type*} (m : Program σ ε α) : Program σ ε' (Except ε α) := fun s => (.ok (m s).1, (m s).2)

def onlyIf (c : Prop) [Decidable c] (m : Program σ ε Unit) : Program σ ε Unit := if c then m else pure ()

/-! ### Running -/

theorem pure_run (a : α) (s : σ) : (pure a : Program σ ε α) s = (.ok a, s) := rfl

theorem stop_run (e : ε) (s : σ) : (stop e : Program σ ε α) s = (.error e, s) := rfl

theorem read_run (f : σ → α) (s : σ) : (read f : Program σ ε α) s = (.ok (f s), s) := rfl

theorem update_run (f : σ → σ) (s : σ) : (update f : Program σ ε Unit) s = (.ok (), f s) := rfl

theorem ofExcept_run (x : Except ε α) (s : σ) : (ofExcept x : Program σ ε α) s = (x, s) := by
  cases x <;> rfl

theorem bind_run (m : Program σ ε α) (f : α → Program σ ε β) (s : σ) :
    (m >>= f) s = match m s with | (.ok a, s') => f a s' | (.error e, s') => (.error e, s') := rfl

variable {m : Program σ ε α} {a : α} {s : σ}

theorem run_of_ok (ok : (m s).1 = .ok a) : m s = (.ok a, (m s).2) := Prod.ext ok rfl

theorem pure_bind (a : α) (f : α → Program σ ε β) : (pure a >>= f) = f a := rfl

theorem bind_assoc {γ : Type u} (m : Program σ ε α) (f : α → Program σ ε β) (k : β → Program σ ε γ) :
    m >>= f >>= k = m >>= fun a => f a >>= k := by
  funext s
  simp only [bind_run]
  cases m s with
  | mk result s' => cases result <;> rfl

variable {c : Prop}

theorem ite_run [Decidable c] (m n : Program σ ε α) (s : σ) : (if c then m else n) s = if c then m s else n s := by
  split
  · rfl
  · rfl

variable {f : α → Program σ ε β}

theorem bind_ok {s' : σ} {b : β} (run : (m >>= f) s = (.ok b, s')) : ∃ a t, m s = (.ok a, t) ∧ f a t = (.ok b, s') := by
  simp only [Bind.bind] at run
  split at run
  · rename_i a t first
    exact ⟨a, t, first, run⟩
  · cases run

/-- The computation keeps `I` on both exits, and what it returns normally satisfies `Q`. -/
def Keeps (I : σ → Prop) (m : Program σ ε α) (Q : α → Prop) : Prop := ∀ s, I s → I (m s).2 ∧ ∀ a, (m s).1 = .ok a → Q a

variable {I : σ → Prop} {Q : α → Prop}

theorem Keeps.pure (h : Q a) : Keeps I (Pure.pure a : Program σ ε α) Q := by
  intro s hs
  refine ⟨hs, ?_⟩
  intro b hb
  cases hb
  exact h

variable {e : ε}

theorem Keeps.stop : Keeps I (Program.stop e : Program σ ε α) Q := by
  intro s hs
  refine ⟨hs, ?_⟩
  intro b hb
  cases hb

theorem Keeps.read {f : σ → α} (h : ∀ s, I s → Q (f s)) : Keeps I (Program.read f : Program σ ε α) Q := by
  intro s hs
  refine ⟨hs, ?_⟩
  intro b hb
  cases hb
  exact h s hs

theorem Keeps.update {f : σ → σ} {Q : Unit → Prop} (h : ∀ s, I s → I (f s)) (hq : Q ()) :
    Keeps I (Program.update f : Program σ ε Unit) Q :=
  fun s hs => ⟨h s hs, fun _ _ => hq⟩

variable {x : Except ε α}

theorem Keeps.ofExcept (h : ∀ a, x = .ok a → Q a) : Keeps I (Program.ofExcept x : Program σ ε α) Q := by
  cases x with
  | ok a => exact Keeps.pure (h a rfl)
  | error e => exact Keeps.stop

theorem Keeps.bind {P : α → Prop} {Q : β → Prop}
    (hm : Keeps I m P) (hf : ∀ a, P a → Keeps I (f a) Q) : Keeps I (m >>= f) Q := by
  intro s hs
  obtain ⟨kept, value⟩ := hm s hs
  cases run : m s with
  | mk result s' =>
    rw [run] at kept value
    cases result with
    | ok a =>
      simpa [Bind.bind, run] using hf a (value a rfl) s' kept
    | error e =>
      simpa [Bind.bind, run] using kept

theorem Keeps.bind_ends {P : σ → Prop} (hm : Keeps I m Q) (hs : I s) (left : ∀ s', I s' → P s')
    (went : ∀ a s', m s = (.ok a, s') → I s' → Q a → P (f a s').2) : P ((m >>= f) s).2 := by
  obtain ⟨kept, value⟩ := hm s hs
  simp only [Bind.bind]
  cases run : m s with
  | mk result s' =>
    rw [run] at kept value
    cases result with
    | ok a => exact went a s' run kept (value a rfl)
    | error e => exact left s' kept

variable {n : Program σ ε α}

theorem Keeps.ite [Decidable c] (hm : c → Keeps I m Q) (hn : ¬c → Keeps I n Q) : Keeps I (if c then m else n) Q := by
  by_cases h : c
  · simpa [h] using hm h
  · simpa [h] using hn h

theorem Keeps.onlyIf [Decidable c] {m : Program σ ε Unit} {Q : Unit → Prop}
    (hm : c → Keeps I m Q) (hq : Q ()) : Keeps I (Program.onlyIf c m) Q :=
  Keeps.ite hm fun _ => Keeps.pure hq

theorem Keeps.observe {f : σ → α} : Keeps I (Program.read f : Program σ ε α) fun _ => True := Keeps.read fun _ _ => trivial

theorem Keeps.change {f : σ → σ} (h : ∀ s, I s → I (f s)) : Keeps I (Program.update f : Program σ ε Unit) fun _ => True :=
  Keeps.update h trivial

theorem Keeps.maybe [Decidable c] {m : Program σ ε Unit} (hm : Keeps I m fun _ => True) :
    Keeps I (Program.onlyIf c m) fun _ => True :=
  Keeps.onlyIf (fun _ => hm) trivial

/-- The computation leaves `view` of the state as it is, on both exits. -/
def Fixes {γ : Type*} (view : σ → γ) (m : Program σ ε α) : Prop := ∀ s, view (m s).2 = view s

variable {γ : Type*} {view : σ → γ}

@[grind ←] theorem Fixes.pure (a : α) : Fixes view (Pure.pure a : Program σ ε α) := fun _ => rfl

@[grind ←] theorem Fixes.stop (e : ε) : Fixes view (Program.stop e : Program σ ε α) := fun _ => rfl

@[grind ←] theorem Fixes.read (f : σ → α) : Fixes view (Program.read f : Program σ ε α) := fun _ => rfl

theorem Fixes.update {f : σ → σ} (h : ∀ s, view (f s) = view s) : Fixes view (Program.update f : Program σ ε Unit) := h

@[grind ←] theorem Fixes.ofExcept (x : Except ε α) : Fixes view (Program.ofExcept x : Program σ ε α) := by
  cases x with
  | ok a => exact Fixes.pure a
  | error e => exact Fixes.stop e

@[grind ←] theorem Fixes.bind (hm : Fixes view m) (hf : ∀ a, Fixes view (f a)) : Fixes view (m >>= f) := by
  intro s
  have first := hm s
  simp only [Bind.bind]
  cases run : m s with
  | mk result s' =>
    rw [run] at first
    cases result with
    | ok a => exact (hf a s').trans first
    | error e => exact first

theorem Fixes.ite [Decidable c] (hm : Fixes view m) (hn : Fixes view n) : Fixes view (if c then m else n) := by
  split
  · exact hm
  · exact hn

@[grind ←] theorem Fixes.onlyIf [Decidable c] {m : Program σ ε Unit} (hm : Fixes view m) :
    Fixes view (Program.onlyIf c m) :=
  Fixes.ite hm (Fixes.pure ())

@[grind ←] theorem Fixes.attempt {ε' : Type*} (hm : Fixes view m) :
    Fixes view (Program.attempt m : Program σ ε' (Except ε α)) := hm

theorem Fixes.ok {s' : σ} (fixed : Fixes view m) (run : m s = (.ok a, s')) : view s' = view s := by
  have same := fixed s
  rwa [run] at same

theorem Fixes.after (fixed : ∀ a, Fixes view (f a)) (s : σ) : view ((m >>= f) s).2 = view (m s).2 := by
  rw [bind_run]
  cases m s with
  | mk result s' =>
    cases result with
    | ok a => exact fixed a s'
    | error e => rfl

theorem Fixes.comp {δ : Type*} (fixed : Fixes view m) (g : γ → δ) : Fixes (fun s => g (view s)) m :=
  fun s => congrArg g (fixed s)

theorem Fixes.keeps {P : γ → Prop} (fixed : Fixes view m) : Keeps (fun s => P (view s)) m fun _ => True := by
  intro s hs
  have same := congrArg P (fixed s)
  exact ⟨same.mpr hs, fun _ _ => trivial⟩

/-- The computation never leaves with an exit of `bad`. -/
def Avoids (bad : ε → Prop) (m : Program σ ε α) : Prop := ∀ s e, (m s).1 = .error e → ¬bad e

variable {bad : ε → Prop}

@[grind ←] theorem Avoids.pure (a : α) : Avoids bad (Pure.pure a : Program σ ε α) := by
  intro s e left
  cases left

@[grind ←] theorem Avoids.stop (h : ¬bad e) : Avoids bad (Program.stop e : Program σ ε α) := by
  intro s e' left
  cases left
  exact h

@[grind ←] theorem Avoids.read (f : σ → α) : Avoids bad (Program.read f : Program σ ε α) := by
  intro s e left
  cases left

@[grind ←] theorem Avoids.update (f : σ → σ) : Avoids bad (Program.update f : Program σ ε Unit) := by
  intro s e left
  cases left

@[grind ←] theorem Avoids.ofExcept (h : ∀ e, x = .error e → ¬bad e) : Avoids bad (Program.ofExcept x : Program σ ε α) := by
  cases x with
  | ok a => exact Avoids.pure a
  | error e => exact Avoids.stop (h e rfl)

@[grind ←] theorem Avoids.bind (hm : Avoids bad m) (hf : ∀ a, Avoids bad (f a)) : Avoids bad (m >>= f) := by
  intro s e left
  have first := hm s
  simp only [Bind.bind] at left
  cases run : m s with
  | mk result s' =>
    rw [run] at left first
    cases result with
    | ok a => exact hf a s' e left
    | error e' =>
      cases left
      exact first e rfl

theorem Avoids.ite [Decidable c] (hm : Avoids bad m) (hn : Avoids bad n) : Avoids bad (if c then m else n) := by
  split
  · exact hm
  · exact hn

@[grind ←] theorem Avoids.onlyIf [Decidable c] {m : Program σ ε Unit} (hm : Avoids bad m) :
    Avoids bad (Program.onlyIf c m) :=
  Avoids.ite hm (Avoids.pure ())

/-- `n` does what `m` does, except from the states where `m` leaves with an exit of `late`. -/
def Extends (late : ε → Prop) (m n : Program σ ε α) : Prop := ∀ s, (∀ e, (m s).1 = .error e → ¬late e) → n s = m s

variable {late : ε → Prop}

theorem Extends.refl (m : Program σ ε α) : Extends late m m := fun _ _ => rfl

theorem Extends.bind {g : α → Program σ ε β} (first : Extends late m n)
    (rest : ∀ a, Extends late (f a) (g a)) : Extends late (m >>= f) (n >>= g) := by
  intro s timely
  have agrees := first s
  simp only [Bind.bind] at timely ⊢
  cases run : m s with
  | mk result s' =>
    rw [run] at agrees timely
    cases result with
    | error e =>
      have left : ¬late e := timely e rfl
      rw [agrees (by simpa using left)]
    | ok a =>
      rw [agrees (by simp)]
      exact rest a s' timely

theorem Extends.ite [Decidable c] {m' n' : Program σ ε α} (yes : Extends late m m')
    (no : Extends late n n') : Extends late (if c then m else n) (if c then m' else n') := by
  split
  · exact yes
  · exact no

/-! ### Triples -/

/-- From a state of `pre`, a normal exit satisfies `post` and an early one `left`. -/
structure Meets (pre : σ → Prop) (m : Program σ ε α) (post : α → σ → Prop) (left : σ → Prop) : Prop where
  exits : ∀ s, pre s → match m s with
    | (.ok a, s') => post a s'
    | (.error _, s') => left s'

/-- The computation leaves `I` true on both exits. -/
abbrev Preserves (I : σ → Prop) (m : Program σ ε α) : Prop := Meets I m (fun _ => I) I

variable {pre left : σ → Prop} {post : α → σ → Prop}

theorem Meets.pure (h : ∀ s, pre s → post a s) : Meets pre (Pure.pure a : Program σ ε α) post left := ⟨h⟩

theorem Meets.stop (h : ∀ s, pre s → left s) : Meets pre (Program.stop e : Program σ ε α) post left := ⟨h⟩

theorem Meets.trivially : Meets pre m (fun _ _ => True) fun _ => True := ⟨fun _ _ => by split <;> trivial⟩

theorem Meets.read {f : σ → α} : Meets pre (Program.read f : Program σ ε α) (fun a s => pre s ∧ f s = a) left :=
  ⟨fun _ hs => ⟨hs, rfl⟩⟩

theorem Meets.update {f : σ → σ} {Q : Unit → σ → Prop} (h : ∀ s, pre s → Q () (f s)) :
    Meets pre (Program.update f : Program σ ε Unit) Q left := ⟨h⟩

theorem Meets.checked {R : β → σ → Prop} (early : ∀ s, pre s → left s) (h : ∀ a, x = .ok a → Meets pre (f a) R left) :
    Meets pre (Program.ofExcept x >>= f) R left := by
  cases x with
  | ok a => exact h a rfl
  | error e => exact ⟨early⟩

theorem Meets.bind {Q : α → σ → Prop} {R : β → σ → Prop}
    (hm : Meets pre m Q left) (hf : ∀ a, Meets (Q a) (f a) R left) : Meets pre (m >>= f) R left := by
  refine ⟨fun s hs => ?_⟩
  have first := hm.exits s hs
  simp only [Bind.bind]
  cases run : m s with
  | mk result s' =>
    rw [run] at first
    cases result with
    | ok a => exact (hf a).exits s' first
    | error e => exact first

theorem Meets.next {R : β → σ → Prop} (hm : Meets pre m (fun _ => pre) left) (hf : ∀ a, Meets pre (f a) R left) :
    Meets pre (m >>= f) R left := .bind hm hf

theorem Meets.of_exists {ι : Type*} {p : ι → Prop} {P : ι → σ → Prop}
    (h : ∀ i, p i → Meets (P i) m post left) : Meets (fun s => ∃ i, p i ∧ P i s) m post left := by
  refine ⟨?_⟩
  rintro s ⟨i, hp, hs⟩
  exact (h i hp).exits s hs

theorem Meets.given {p : Prop} (h : p → Meets pre m post left) : Meets (fun s => p ∧ pre s) m post left :=
  ⟨fun s hs => (h hs.1).exits s hs.2⟩

theorem Meets.ite [Decidable c] (hm : c → Meets pre m post left)
    (hn : ¬c → Meets pre n post left) : Meets pre (if c then m else n) post left := by
  split
  · exact hm ‹_›
  · exact hn ‹_›

theorem Meets.conseq {pre' left' : σ → Prop} {post' : α → σ → Prop}
    (hm : Meets pre' m post' left') (before : ∀ s, pre s → pre' s) (after : ∀ a s, post' a s → post a s)
    (early : ∀ s, left' s → left s) : Meets pre m post left := by
  refine ⟨fun s hs => ?_⟩
  have met := hm.exits s (before s hs)
  cases run : m s with
  | mk result s' =>
    rw [run] at met
    cases result with
    | ok a => exact after a s' met
    | error e => exact early s' met

theorem Meets.early {left' : σ → Prop} (hm : Meets pre m post left') (early : ∀ s, left' s → left s) : Meets pre m post left :=
  Meets.conseq hm (fun _ h => h) (fun _ _ h => h) early

theorem Meets.prior {pre' : σ → Prop} (hm : Meets pre' m post left) (before : ∀ s, pre s → pre' s) : Meets pre m post left :=
  Meets.conseq hm before (fun _ _ h => h) fun _ h => h

theorem Meets.ends {P : σ → Prop} (hm : Meets pre m (fun _ => P) P) (hs : pre s) : P (m s).2 := by
  have met := hm.exits s hs
  cases run : m s with
  | mk result s' =>
    rw [run] at met
    cases result with
    | ok a => exact met
    | error e => exact met

theorem Meets.attempt {ε' : Type*} (hm : Meets pre m post left) :
    Meets pre (Program.attempt m : Program σ ε' (Except ε α))
      (fun result s => match result with | .ok a => post a s | .error _ => left s) fun _ => False := by
  refine ⟨fun s hs => ?_⟩
  have met := hm.exits s hs
  simp only [Program.attempt]
  cases run : m s with
  | mk result s' =>
    rw [run] at met
    cases result with
    | ok a => exact met
    | error e => exact met

theorem Meets.uniform {ε' : Type*} {P : σ → Prop} (hm : Meets pre m (fun _ => P) P) :
    Meets pre (Program.attempt m : Program σ ε' (Except ε α)) (fun _ => P) left := by
  refine Meets.conseq (Meets.attempt hm) (fun _ h => h) ?_ fun _ h => h.elim
  rintro (e | a) s after
  · exact after
  · exact after

theorem Fixes.meets {γ : Type*} {view : σ → γ} {P : γ → Prop} (fixed : Fixes view m) :
    Preserves (fun s => P (view s)) m := by
  refine ⟨fun s hs => ?_⟩
  have same := congrArg P (fixed s)
  cases run : m s with
  | mk result s' =>
    rw [run] at same
    cases result with
    | ok a => exact same.mpr hs
    | error e => exact same.mpr hs

theorem Keeps.meets {Q : α → Prop} (hm : Keeps I m Q) : Meets I m (fun a s => Q a ∧ I s) I := by
  refine ⟨fun s hs => ?_⟩
  obtain ⟨kept, value⟩ := hm s hs
  cases run : m s with
  | mk result s' =>
    rw [run] at kept value
    cases result with
    | ok a => exact ⟨value a rfl, kept⟩
    | error e => exact kept

end Program

end Sonde.Lib
