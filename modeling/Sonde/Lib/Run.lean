import Mathlib.Data.List.Basic

namespace Sonde.Lib

section
variable {σ ε : Type*} (step : σ → ε → σ)

/-- Every event of the run meets `P` in the state in which it happens. -/
def Throughout (P : σ → ε → Prop) : σ → List ε → Prop
  | _, [] => True
  | s, event :: events => P s event ∧ Throughout P (step s event) events

instance (P : σ → ε → Prop) [∀ s event, Decidable (P s event)] (s : σ) (events : List ε) :
    Decidable (Throughout step P s events) :=
  match events with
  | [] => inferInstanceAs (Decidable True)
  | event :: events =>
    have := instDecidableThroughout P (step s event) events
    inferInstanceAs (Decidable (_ ∧ _))

/-- Every state that the run passes through has `Q`. -/
def Always (Q : σ → Prop) (s : σ) (events : List ε) : Prop := ∀ done rest, events = done ++ rest → Q (done.foldl step s)

variable {step} {K Q : σ → Prop} {G C : σ → ε → Prop} {s : σ} {events : List ε}

theorem Always.head (always : Always step Q s events) : Q s := always [] events rfl

theorem always_nil : Always step Q s [] ↔ Q s := by
  refine ⟨Always.head, fun holds done rest split => ?_⟩
  rw [(List.append_eq_nil_iff.mp split.symm).1]
  exact holds

theorem always_cons {event : ε} : Always step Q s (event :: events) ↔ Q s ∧ Always step Q (step s event) events := by
  constructor
  · intro always
    exact ⟨always.head, fun done rest split => always (event :: done) rest (congrArg (event :: ·) split)⟩
  · rintro ⟨holds, always⟩ done rest split
    cases done with
    | nil => exact holds
    | cons first done =>
      obtain ⟨rfl, tail⟩ := List.cons.inj split
      exact always done rest tail

theorem Throughout.always (keeps : ∀ s event, Q s → C s event → Q (step s event)) (holds : Q s)
    (throughout : Throughout step C s events) : Always step Q s events := by
  induction events generalizing s with
  | nil => exact always_nil.mpr holds
  | cons event events ih => exact always_cons.mpr ⟨holds, ih (keeps s event holds throughout.1) throughout.2⟩

theorem Throughout.mono {P : σ → ε → Prop} (keeps : ∀ s event, K s → G s event → K (step s event))
    (holds : ∀ s event, K s → G s event → P s event) (known : K s) (throughout : Throughout step G s events) :
    Throughout step P s events := by
  induction events generalizing s with
  | nil => trivial
  | cons event events ih =>
    exact ⟨holds s event known throughout.1, ih (keeps s event known throughout.1) throughout.2⟩

theorem Throughout.of_append {P : σ → ε → Prop} {done : List ε} (throughout : Throughout step P s (done ++ events)) :
    Throughout step P (done.foldl step s) events := by
  induction done generalizing s with
  | nil => exact throughout
  | cons event done ih => exact ih throughout.2

theorem always_iff_throughout (keeps : ∀ s event, K s → Q s → G s event → K (step s event))
    (exactly : ∀ s event, K s → Q s → G s event → (Q (step s event) ↔ C s event)) (known : K s) (holds : Q s)
    (genuine : Throughout step G s events) : Always step Q s events ↔ Throughout step C s events := by
  induction events generalizing s with
  | nil => exact iff_of_true (always_nil.mpr holds) trivial
  | cons event events ih =>
    rw [always_cons]
    have next := exactly s event known holds genuine.1
    have later := fun kept => ih (keeps s event known holds genuine.1) kept genuine.2
    constructor
    · rintro ⟨-, always⟩
      exact ⟨next.mp always.head, (later always.head).mp always⟩
    · rintro ⟨meets, throughout⟩
      exact ⟨holds, (later (next.mpr meets)).mpr throughout⟩

end

end Sonde.Lib
