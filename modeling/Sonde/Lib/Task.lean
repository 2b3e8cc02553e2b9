import Sonde.Lib.Program

namespace Sonde.Lib

/-- A computation in atomic steps, between which other tasks may change the state. A step has a label for what it
accesses; what comes next depends on the state it finds. -/
inductive Task (σ L ε α : Type) where
  | done (result : Except ε α)
  | step (label : L) (effect : σ → σ) (next : σ → Task σ L ε α)

namespace Task
variable {σ L ε α β : Type}

def bind (t : Task σ L ε α) (f : α → Task σ L ε β) : Task σ L ε β :=
  match t with
  | done (.ok a) => f a
  | done (.error e) => done (.error e)
  | step label effect next => step label effect fun s => (next s).bind f

instance : Monad (Task σ L ε) where
  pure a := done (.ok a)
  bind := bind

theorem bind_assoc {γ : Type} (t : Task σ L ε α) (f : α → Task σ L ε β) (k : β → Task σ L ε γ) :
    t >>= f >>= k = t >>= fun a => f a >>= k := by
  induction t with
  | done result => cases result <;> rfl
  | step label effect next ih => exact congrArg (step label effect) (funext ih)

def stop (e : ε) : Task σ L ε α := done (.error e)

def ofExcept (x : Except ε α) : Task σ L ε α := done x

def atomic (label : L) (m : Program σ ε α) : Task σ L ε α := step label (fun s => (m s).2) fun s => done (m s).1

def onlyIf (c : Prop) [Decidable c] (t : Task σ L ε Unit) : Task σ L ε Unit := if c then t else pure ()

def forget : Task σ L ε α → Task σ L Unit Unit
  | done _ => done (.ok ())
  | step label effect next => step label effect fun s => (next s).forget

def head : Task σ L ε α → Option L
  | done _ => none
  | step label _ _ => some label

def alone : Task σ L ε α → Program σ ε α
  | done result => fun s => (result, s)
  | step _ effect next => fun s => (next s).alone (effect s)

variable {m : Program σ ε α} {t : Task σ L ε α} {f : α → Task σ L ε β}

@[simp] theorem bind_alone (t : Task σ L ε α) (f : α → Task σ L ε β) :
    (t >>= f).alone = t.alone >>= fun a => (f a).alone := by
  induction t with
  | done result => cases result <;> rfl
  | step label effect next ih =>
    funext s
    exact congrFun (ih s) (effect s)

@[simp] theorem pure_alone (a : α) : (pure a : Task σ L ε α).alone = pure a := rfl

@[simp] theorem stop_alone (e : ε) : (stop e : Task σ L ε α).alone = Program.stop e := rfl

@[simp] theorem atomic_alone (label : L) (m : Program σ ε α) : (atomic label m).alone = m := rfl

@[simp] theorem ite_alone (c : Prop) [Decidable c] (t u : Task σ L ε α) :
    (if c then t else u).alone = if c then t.alone else u.alone := apply_ite ..

@[simp] theorem onlyIf_alone (c : Prop) [Decidable c] (t : Task σ L ε Unit) :
    (onlyIf c t).alone = Program.onlyIf c t.alone := apply_ite ..

variable {a : α} {s s' : σ}

theorem alone_bind_ok (run : t.alone s = (.ok a, s')) : (t >>= f).alone s = (f a).alone s' := by
  rw [bind_alone, Program.bind_run, run]

variable {c : Prop} {u : Task σ L ε α}

/-- Alone in `s`, the task leaves the state as it is; it has a value that satisfies `P`, or it fails and none does. -/
def Inspects (s : σ) (P : α → Prop) (t : Task σ L ε α) : Prop :=
  (∃ a, t.alone s = (.ok a, s) ∧ P a) ∨ ∃ e, t.alone s = (.error e, s) ∧ ∀ a, ¬P a

variable {e : ε} {P : α → Prop} {Q : β → Prop}

theorem Inspects.pure (holds : P a) : (Pure.pure a : Task σ L ε α).Inspects s P := .inl ⟨a, rfl, holds⟩

theorem Inspects.stop (never : ∀ a, ¬P a) : (stop e : Task σ L ε α).Inspects s P := .inr ⟨e, rfl, never⟩

theorem Inspects.ofExcept (x : Except ε α) : (ofExcept x : Task σ L ε α).Inspects s fun a => x = .ok a := by
  cases x with
  | ok a => exact .inl ⟨a, rfl, rfl⟩
  | error e => exact .inr ⟨e, rfl, fun a same => by cases same⟩

theorem Inspects.read (label : L) (f : σ → α) :
    (atomic label (Program.read f) : Task σ L ε α).Inspects s fun a => a = f s :=
  .inl ⟨f s, rfl, rfl⟩

theorem Inspects.mono {P' : α → Prop} (inspects : t.Inspects s P) (same : ∀ a, P a ↔ P' a) : t.Inspects s P' := by
  rcases inspects with ⟨a, run, holds⟩ | ⟨e, run, never⟩
  · exact .inl ⟨a, run, (same a).mp holds⟩
  · exact .inr ⟨e, run, fun a holds => never a ((same a).mpr holds)⟩

theorem alone_bind_error (run : t.alone s = (.error e, s')) : (t >>= f).alone s = (.error e, s') := by
  rw [bind_alone, Program.bind_run, run]

theorem Inspects.bind {R : α → β → Prop} (first : t.Inspects s P)
    (second : ∀ a, P a → (f a).Inspects s (R a)) (unique : ∀ a a', P a → P a' → a = a') :
    (t >>= f).Inspects s fun b => ∃ a, P a ∧ R a b := by
  rcases first with ⟨a, run, holds⟩ | ⟨e, run, never⟩
  · unfold Inspects
    rw [alone_bind_ok run]
    rcases second a holds with ⟨b, rest, value⟩ | ⟨e, rest, fails⟩
    · exact .inl ⟨b, rest, a, holds, value⟩
    · refine .inr ⟨e, rest, ?_⟩
      rintro b ⟨a', other, value⟩
      obtain rfl := unique a a' holds other
      exact fails b value
  · exact .inr ⟨e, alone_bind_error run, fun b ⟨a, holds, _⟩ => never a holds⟩

/-! ### What the steps of a task guarantee -/

/-- As long as the state satisfies `I` at its steps, each of the task's steps satisfies `G`, and so does its value
satisfy `Q`. Nothing is said of what follows a step that breaks `I`. -/
def Under (I : σ → Prop) (G : σ → L → σ → Prop) (Q : α → Prop) : Task σ L ε α → Prop
  | done result => ∀ a, result = .ok a → Q a
  | step label effect next => ∀ s, I s → G s label (effect s) ∧ (I (effect s) → (next s).Under I G Q)

def Obeys (G : σ → L → σ → Prop) (t : Task σ L ε α) : Prop := t.Under (fun _ => True) G fun _ => True

variable {R : β → Prop} {I : σ → Prop} {G : σ → L → σ → Prop} {Q : α → Prop}

theorem Under.pure (holds : Q a) : (Pure.pure a : Task σ L ε α).Under I G Q := by
  intro b same
  cases same
  exact holds

theorem Under.stop : (stop e : Task σ L ε α).Under I G Q := by
  intro a same
  cases same

theorem Under.atomic {label : L} (guarantees : ∀ s, I s → G s label (m s).2)
    (value : ∀ s, I s → I (m s).2 → ∀ a, (m s).1 = .ok a → Q a) : (atomic label m).Under I G Q :=
  fun s holds => ⟨guarantees s holds, value s holds⟩

theorem Under.bind (first : t.Under I G Q) (second : ∀ a, Q a → (f a).Under I G R) : (t >>= f).Under I G R := by
  induction t with
  | done result =>
    cases result with
    | ok a => exact second a (first a rfl)
    | error e => exact Under.stop
  | step label effect next ih =>
    intro s holds
    obtain ⟨guaranteed, rest⟩ := first s holds
    exact ⟨guaranteed, fun kept => ih s (rest kept)⟩

theorem Under.ite [Decidable c] (yes : c → t.Under I G Q)
    (no : ¬c → u.Under I G Q) : (if c then t else u).Under I G Q := by
  split
  · rename_i holds
    exact yes holds
  · rename_i fails
    exact no fails

theorem Under.mono {I' : σ → Prop} {G' : σ → L → σ → Prop} {Q' : α → Prop} (under : t.Under I G Q)
    (rely : ∀ s, I' s → I s) (guarantee : ∀ s label s', I' s → G s label s' → G' s label s')
    (value : ∀ a, Q a → Q' a) : t.Under I' G' Q' := by
  induction t with
  | done result => exact fun a same => value a (under a same)
  | step label effect next ih =>
    intro s holds
    obtain ⟨guaranteed, rest⟩ := under s (rely s holds)
    exact ⟨guarantee s label _ holds guaranteed, fun kept => ih s (rest (rely _ kept))⟩

theorem Under.forget (under : t.Under I G Q) : t.forget.Under I G fun _ => True := by
  induction t with
  | done result => exact fun _ _ => trivial
  | step label effect next ih =>
    intro s holds
    obtain ⟨guaranteed, rest⟩ := under s holds
    exact ⟨guaranteed, fun kept => ih s (rest kept)⟩

/-- The steps of the task keep `I` as long as the other tasks keep it, and then its value satisfies `Q`. -/
def Keeps (I : σ → Prop) (Q : α → Prop) (t : Task σ L ε α) : Prop := t.Under I (fun _ _ s => I s) Q

theorem Keeps.atomic {label : L} (keeps : Program.Keeps I m Q) : (Task.atomic label m).Keeps I Q :=
  Under.atomic (fun s holds => (keeps s holds).1) fun s holds _ => (keeps s holds).2

theorem Keeps.alone (keeps : t.Keeps I Q) (holds : I s) : I (t.alone s).2 := by
  induction t generalizing s with
  | done result => exact holds
  | step label effect next ih =>
    obtain ⟨kept, rest⟩ := keeps s holds
    exact ih s (rest kept) kept

/-- Wherever the label of the next step satisfies `φ`, the task is `Under I G Q` from there on. -/
def Guarded (φ : L → Prop) (I : σ → Prop) (G : σ → L → σ → Prop) (Q : α → Prop) : Task σ L ε α → Prop
  | done _ => True
  | step label effect next =>
    (φ label → (step label effect next).Under I G Q) ∧ ∀ s, (next s).Guarded φ I G Q

variable {φ : L → Prop}

theorem Guarded.of_under (under : t.Under (fun _ => True) G Q) : t.Guarded φ I G Q := by
  induction t with
  | done result => trivial
  | step label effect next ih =>
    refine ⟨fun _ => under.mono (fun _ _ => trivial) (fun _ _ _ _ step => step) fun _ value => value, fun s => ?_⟩
    exact ih s ((under s trivial).2 trivial)

theorem Guarded.of_never (never : t.Obeys fun _ label _ => ¬φ label) : t.Guarded φ I G Q := by
  induction t with
  | done result => trivial
  | step label effect next ih =>
    exact ⟨fun holds s _ => ((never s trivial).1 holds).elim, fun s => ih s ((never s trivial).2 trivial)⟩

theorem Guarded.atomic {label : L} (under : φ label → (atomic label m).Under I G Q) : (atomic label m).Guarded φ I G Q :=
  ⟨under, fun _ => trivial⟩

theorem Guarded.bind (first : t.Guarded φ I G Q)
    (under : ∀ a, Q a → (f a).Under I G R) (second : ∀ a, (f a).Guarded φ I G R) : (t >>= f).Guarded φ I G R := by
  induction t with
  | done result =>
    cases result with
    | ok a => exact second a
    | error e => trivial
  | step label effect next ih =>
    exact ⟨fun holds => Under.bind (first.1 holds) under, fun s => ih s (first.2 s)⟩

theorem Guarded.ite [Decidable c] (yes : t.Guarded φ I G Q)
    (no : u.Guarded φ I G Q) : (if c then t else u).Guarded φ I G Q := by
  split
  · exact yes
  · exact no

theorem Guarded.forget (guarded : t.Guarded φ I G Q) : t.forget.Guarded φ I G fun _ => True := by
  induction t with
  | done result => trivial
  | step label effect next ih =>
    exact ⟨fun holds => Under.forget (guarded.1 holds), fun s => ih s (guarded.2 s)⟩

structure Pool (σ L ε α : Type) where
  state : σ
  tasks : List (Task σ L ε α)

namespace Pool

def step (p : Pool σ L ε α) (i : Nat) : Pool σ L ε α :=
  match p.tasks[i]? with
  | some (.step _ effect next) => ⟨effect p.state, p.tasks.set i (next p.state)⟩
  | _ => p

def run (p : Pool σ L ε α) (schedule : List Nat) : Pool σ L ε α := schedule.foldl step p

def label (p : Pool σ L ε α) (i : Nat) : Option L := p.tasks[i]?.bind head

variable {p : Pool σ L ε α}

theorem step_task {r : Nat} (found : p.tasks[r]? = some t) (i : Nat) : (p.step i).tasks[r]? = some t ∨
    ∃ label effect next, i = r ∧ t = .step label effect next ∧ p.step i = ⟨effect p.state, p.tasks.set r (next p.state)⟩ ∧
      (p.step i).tasks[r]? = some (next p.state) := by
  unfold step
  by_cases same : i = r
  · subst same
    rw [found]
    cases t with
    | done result => exact .inl found
    | step label effect next =>
      refine .inr ⟨label, effect, next, rfl, rfl, rfl, ?_⟩
      exact List.getElem?_set_self (List.getElem?_eq_some_iff.mp found).1
  · refine .inl ?_
    split
    · rwa [List.getElem?_set_ne same]
    · exact found

theorem step_all {P : Task σ L ε α → Prop} (next : ∀ label effect f s, P (.step label effect f) → P (f s)) (all : ∀ t ∈ p.tasks, P t) (i : Nat) : ∀ t ∈ (p.step i).tasks, P t := by
  unfold step
  cases found : p.tasks[i]? with
  | none => exact all
  | some t =>
    have holds := all t (List.mem_of_getElem? found)
    cases t with
    | done result => exact all
    | step label effect f =>
      intro u member
      rcases List.mem_or_eq_of_mem_set member with old | rfl
      · exact all u old
      · exact next label effect f p.state holds

theorem step_under {G : σ → L → σ → Prop}
    (all : ∀ t ∈ p.tasks, t.Under I G fun _ => True) (holds : I p.state) (i : Nat) : (p.label i = none ∧ p.step i = p) ∨
    ∃ label, p.label i = some label ∧ G p.state label (p.step i).state ∧
      (I (p.step i).state → ∀ t ∈ (p.step i).tasks, t.Under I G fun _ => True) := by
  unfold label step
  cases found : p.tasks[i]? with
  | none => exact .inl ⟨rfl, rfl⟩
  | some t =>
    have under := all t (List.mem_of_getElem? found)
    cases t with
    | done result => exact .inl ⟨rfl, rfl⟩
    | step label effect next =>
      obtain ⟨guaranteed, rest⟩ := under p.state holds
      refine .inr ⟨label, rfl, guaranteed, fun kept u member => ?_⟩
      rcases List.mem_or_eq_of_mem_set member with old | rfl
      · exact all u old
      · exact rest kept

theorem step_keeps (all : ∀ t ∈ p.tasks, t.Keeps I fun _ => True) (holds : I p.state)
    (i : Nat) : I (p.step i).state ∧ ∀ t ∈ (p.step i).tasks, t.Keeps I fun _ => True := by
  rcases step_under all holds i with ⟨-, same⟩ | ⟨label, -, kept, rest⟩
  · rw [same]
    exact ⟨holds, all⟩
  · exact ⟨kept, rest kept⟩

theorem run_keeps (all : ∀ t ∈ p.tasks, t.Keeps I fun _ => True) (holds : I p.state) (schedule : List Nat) :
    I (p.run schedule).state := by
  induction schedule generalizing p with
  | nil => exact holds
  | cons i schedule ih =>
    obtain ⟨kept, rest⟩ := step_keeps all holds i
    exact ih rest kept

end Pool

end Task

end Sonde.Lib
