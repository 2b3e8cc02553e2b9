import Mathlib

/-!
# The modem's button

`pollAt` debounces the samples of the button's level. Times are in nanoseconds. The events are compared with the blocks of
equal samples of the whole history, in which only the blocks that last for the debounce time count.
-/

namespace Sonde.Modem

def buttonDebounce : Nat := 30 * 10 ^ 6

def buttonLongThreshold : Nat := 10 ^ 9

inductive ButtonType where
  | short
  | long
deriving DecidableEq

inductive ButtonState where
  | idle
  | debouncePress (since : Nat)
  | pressed (pressStart : Nat)
  | debounceRelease (pressStart since : Nat)
deriving DecidableEq

structure Sample where
  now : Nat
  pressed : Bool

def pollAt (state : ButtonState) (sample : Sample) : ButtonState × Option ButtonType :=
  match state with
  | .idle => (if sample.pressed then .debouncePress sample.now else .idle, none)
  | .debouncePress since =>
    if !sample.pressed then (.idle, none)
    else if buttonDebounce ≤ sample.now - since then (.pressed (since + buttonDebounce), none)
    else (.debouncePress since, none)
  | .pressed pressStart =>
    (if !sample.pressed then .debounceRelease pressStart sample.now else .pressed pressStart, none)
  | .debounceRelease pressStart since =>
    if sample.pressed then (.pressed pressStart, none)
    else if buttonDebounce ≤ sample.now - since then
      let debouncedRelease := since + buttonDebounce
      (.idle, some (if buttonLongThreshold ≤ debouncedRelease - pressStart then .long else .short))
    else (.debounceRelease pressStart since, none)

def scan : ButtonState → List Sample → List ButtonType
  | _, [] => []
  | state, sample :: samples => (pollAt state sample).2.toList ++ scan (pollAt state sample).1 samples

/-! ## The history

All lists of the history are newest first. -/

structure Block where
  pressed : Bool
  first : Nat
  last : Nat

def Block.Stable (block : Block) : Prop := buttonDebounce ≤ block.last - block.first

instance (block : Block) : Decidable block.Stable := inferInstanceAs (Decidable (_ ≤ _))

def addSample : List Block → Sample → List Block
  | [], sample => [⟨sample.pressed, sample.now, sample.now⟩]
  | block :: older, sample =>
    if block.pressed = sample.pressed then { block with last := sample.now } :: older
    else ⟨sample.pressed, sample.now, sample.now⟩ :: block :: older

def stableBlocks (samples : List Sample) : List Block := (samples.foldl addSample []).filter (·.Stable)

structure Edge where
  pressed : Bool
  time : Nat

def debouncedLevel : List Edge → Bool
  | [] => false
  | edge :: _ => edge.pressed

/-- The changes of the debounced level: each is the first sample of a stable block of the other level. -/
def edges : List Block → List Edge
  | [] => []
  | block :: older =>
    if block.pressed = debouncedLevel (edges older) then edges older else ⟨block.pressed, block.first⟩ :: edges older

def classify (press release : Edge) : ButtonType :=
  if buttonLongThreshold ≤ release.time - press.time then .long else .short

/-- One classification for each release and the press before it. -/
def presses : List Edge → List ButtonType
  | release :: press :: older =>
    if release.pressed then presses (press :: older) else classify press release :: presses (press :: older)
  | _ => []

/-! ## The scanner follows the history -/

def changes (blocks : List Block) : List Edge := edges (blocks.filter (·.Stable))

theorem changes_cons (block : Block) (older : List Block) : changes (block :: older) =
    if block.Stable ∧ block.pressed ≠ debouncedLevel (changes older) then ⟨block.pressed, block.first⟩ :: changes older
    else changes older := by
  by_cases stable : block.Stable
  · rw [changes, List.filter_cons_of_pos (by simpa using stable), edges, ← changes]
    simp [stable]
  · rw [changes, List.filter_cons_of_neg (by simpa using stable), ← changes]
    simp [stable]

def stateAfter (blocks : List Block) : ButtonState :=
  match changes blocks, blocks with
  | ⟨true, press⟩ :: _, ⟨true, _, _⟩ :: _ => .pressed (press + buttonDebounce)
  | ⟨true, press⟩ :: _, ⟨false, since, _⟩ :: _ => .debounceRelease (press + buttonDebounce) since
  | _, ⟨true, since, _⟩ :: _ => .debouncePress since
  | _, _ => .idle

theorem pollAt_stateAfter {blocks : List Block} {sample : Sample} (later : ∀ block ∈ blocks.head?, block.last ≤ sample.now) :
    (pollAt (stateAfter blocks) sample).1 = stateAfter (addSample blocks sample) ∧
      presses (changes (addSample blocks sample)) =
        (pollAt (stateAfter blocks) sample).2.toList ++ presses (changes blocks) := by
  obtain ⟨now, level⟩ := sample
  have positive : buttonDebounce ≠ 0 := by decide
  cases blocks with
  | nil => cases level <;> simp [stateAfter, addSample, pollAt, changes, edges, Block.Stable, positive]
  | cons block older =>
    obtain ⟨pressed, first, last⟩ := block
    -- The newest block was stable before, becomes stable if it goes on, or is still too short.
    have situation : buttonDebounce ≤ last - first ∧ buttonDebounce ≤ now - first ∨
        ¬ buttonDebounce ≤ last - first ∧ buttonDebounce ≤ now - first ∨
        ¬ buttonDebounce ≤ last - first ∧ ¬ buttonDebounce ≤ now - first := by
      have : last ≤ now := later _ rfl
      omega
    rcases situation with ⟨stable, long⟩ | ⟨unstable, long⟩ | ⟨unstable, short⟩ <;>
      rcases changed : changes older with _ | ⟨⟨_ | _, time⟩, before⟩ <;> cases pressed <;> cases level <;>
      simp_all [stateAfter, addSample, changes_cons, pollAt, Block.Stable, debouncedLevel, presses, classify,
        Nat.add_sub_add_right, -not_le, -Nat.not_le]

theorem scan_stateAfter {samples : List Sample} {blocks : List Block}
    (later : ∀ sample ∈ samples, ∀ block ∈ blocks.head?, block.last ≤ sample.now)
    (ordered : samples.Pairwise (·.now ≤ ·.now)) : presses (changes (samples.foldl addSample blocks)) =
      (scan (stateAfter blocks) samples).reverse ++ presses (changes blocks) := by
  induction samples generalizing blocks with
  | nil => rfl
  | cons sample samples ih =>
    obtain ⟨after, rest⟩ := List.pairwise_cons.mp ordered
    obtain ⟨next, event⟩ := pollAt_stateAfter (later sample List.mem_cons_self)
    have newest : ∀ block ∈ (addSample blocks sample).head?, block.last = sample.now := by
      cases blocks <;> simp only [addSample]
      · simp
      · split <;> simp
    rw [List.foldl_cons, ih (fun s mem block head => newest block head ▸ after s mem) rest, event, scan, next,
      List.reverse_append, List.append_assoc]
    cases (pollAt (stateAfter blocks) sample).2 <;> rfl

/-- The scanner reports one event for each debounced press with the debounced release after it, classified by the time
between their first samples. Blocks shorter than the debounce time make no difference. -/
theorem button_presses_classified {samples : List Sample} (ordered : samples.Pairwise (·.now ≤ ·.now)) :
    scan .idle samples = (presses (edges (stableBlocks samples))).reverse ∧
      ∀ others : List Sample, others.Pairwise (·.now ≤ ·.now) → stableBlocks others = stableBlocks samples →
        scan .idle others = scan .idle samples := by
  have classified : ∀ {samples : List Sample}, samples.Pairwise (·.now ≤ ·.now) →
      scan .idle samples = (presses (edges (stableBlocks samples))).reverse := by
    intro samples ordered
    have none_before : ∀ sample ∈ samples, ∀ block ∈ ([] : List Block).head?, block.last ≤ sample.now := by simp
    have whole := scan_stateAfter none_before ordered
    rw [show presses (changes []) = [] from rfl, List.append_nil] at whole
    exact (List.reverse_eq_iff.mpr whole).symm
  refine ⟨classified ordered, fun others later same => ?_⟩
  rw [classified later, classified ordered, same]

-- A press of 1.2 s with a bounce of 1 ms in it.
theorem button_presses_classified_bounce :
    scan .idle [⟨0, true⟩, ⟨40000000, true⟩, ⟨500000000, false⟩, ⟨501000000, true⟩, ⟨1200000000, false⟩,
      ⟨1230000000, false⟩] = [.long] :=
  (button_presses_classified (by simp)).1.trans (by decide)

end Sonde.Modem
