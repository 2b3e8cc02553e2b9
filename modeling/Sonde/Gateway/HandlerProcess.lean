import Mathlib
import Sonde.Gateway.Engine
import Sonde.Lib.Cbor

/-!
# The handler processes

`reload` keeps a process whose configuration stays. The stderr of a process is drained by a task of its own, line by line.
-/

open Sonde.Lib List

namespace Sonde.Gateway
open Engine (ProgramMatcher)

structure HandlerConfig where
  matchers : List ProgramMatcher
  command : String
  args : List String
  replyTimeout : Option Nat
  workingDir : Option String
  deriving DecidableEq, Repr

/-- A configuration with the number of its process: processes are numbered in the order of their creation. -/
structure RoutedHandler where
  config : HandlerConfig
  process : Nat

structure HandlerRouter where
  handlers : List RoutedHandler
  next : Nat
  created : ∀ handler ∈ handlers, handler.process < next
  distinct : (handlers.map (·.process)).Nodup

def takeSlot (config : HandlerConfig) : List (Option RoutedHandler) → Option (RoutedHandler × List (Option RoutedHandler))
  | [] => none
  | slot :: slots =>
    if slot.any (·.config = config) then slot.map (·, none :: slots)
    else (takeSlot config slots).map fun (handler, slots) => (handler, slot :: slots)

/-- The loop of `reload`: the new handlers, the slots that are left and the number of the next process. -/
def reuse (next : Nat) : List HandlerConfig → List (Option RoutedHandler) → List RoutedHandler × List (Option RoutedHandler) × Nat
  | [], slots => ([], slots, next)
  | config :: configs, slots =>
    match takeSlot config slots with
    | some (handler, slots) =>
      let (handlers, slots, next) := reuse next configs slots
      (handler :: handlers, slots, next)
    | none =>
      let (handlers, slots, next') := reuse (next + 1) configs slots
      (⟨config, next⟩ :: handlers, slots, next')

/-! ## The slots -/

variable {config : HandlerConfig} {handler : RoutedHandler} {slots left : List (Option RoutedHandler)}

theorem takeSlot_some (taken : takeSlot config slots = some (handler, left)) :
    handler.config = config ∧ slots.reduceOption.Perm (handler :: left.reduceOption) := by
  induction slots generalizing left with
  | nil => cases taken
  | cons slot slots ih =>
    rw [takeSlot] at taken
    split at taken
    · rename_i same
      obtain ⟨found, rfl, equal⟩ := Option.map_eq_some_iff.mp taken
      obtain ⟨rfl, rfl⟩ := equal
      exact ⟨by simpa using same, .refl _⟩
    · obtain ⟨⟨found, rest⟩, later, equal⟩ := Option.map_eq_some_iff.mp taken
      obtain ⟨rfl, rfl⟩ := equal
      obtain ⟨same, perm⟩ := ih later
      refine ⟨same, ?_⟩
      cases slot with
      | none => exact perm
      | some kept => exact (perm.cons kept).trans (.swap ..)

theorem takeSlot_none (absent : takeSlot config slots = none) : ∀ handler ∈ slots.reduceOption, handler.config ≠ config := by
  induction slots with
  | nil => simp
  | cons slot slots ih =>
    rw [takeSlot] at absent
    cases slot with
    | none => simpa using ih (by simpa using absent)
    | some kept =>
      split at absent
      · cases absent
      · rename_i other
        simp only [reduceOption_cons_of_some, forall_mem_cons]
        exact ⟨by simpa using other, ih (by simpa using absent)⟩

/-- What the loop makes of the slots: `created` are the handlers for which no slot was found. -/
structure Reuses (next : Nat) (configs : List HandlerConfig) (old handlers removed created : List RoutedHandler) (next' : Nat) :
    Prop where
  configs : handlers.map (·.config) = configs
  same : (handlers ++ removed).Perm (old ++ created)
  fresh : created.map (·.process) = range' next created.length
  next : next' = next + created.length
  old : ∀ handler ∈ removed, handler ∈ old
  needed : ∀ handler ∈ created, ∀ other ∈ removed, other.config ≠ handler.config

theorem reuse_reuses (next : Nat) (configs : List HandlerConfig) (slots : List (Option RoutedHandler)) :
    ∃ created, Reuses next configs slots.reduceOption (reuse next configs slots).1
      (reuse next configs slots).2.1.reduceOption created (reuse next configs slots).2.2 := by
  induction configs generalizing next slots with
  | nil => exact ⟨[], rfl, by simp [reuse], rfl, rfl, fun _ member => member, by simp⟩
  | cons config configs ih =>
    rw [reuse]
    cases taken : takeSlot config slots with
    | some pair =>
      obtain ⟨handler, left⟩ := pair
      obtain ⟨same, perm⟩ := takeSlot_some taken
      obtain ⟨created, reuses⟩ := ih next left
      refine ⟨created, ?_, ?_, reuses.fresh, reuses.next, ?_, reuses.needed⟩
      · simp [same, reuses.configs]
      · exact (reuses.same.cons handler).trans (perm.symm.append_right created)
      · exact fun other member => perm.symm.subset (mem_cons_of_mem _ (reuses.old other member))
    | none =>
      obtain ⟨created, reuses⟩ := ih (next + 1) slots
      refine ⟨⟨config, next⟩ :: created, ?_, ?_, ?_, ?_, reuses.old, ?_⟩
      · simp [reuses.configs]
      · exact (reuses.same.cons _).trans perm_middle.symm
      · simp [range'_succ, reuses.fresh]
      · simp [reuses.next]; omega
      · refine forall_mem_cons.mpr ⟨fun other member => ?_, reuses.needed⟩
        exact takeSlot_none taken other (reuses.old other member)

section
variable {router : HandlerRouter} {configs : List HandlerConfig} {handlers removed created : List RoutedHandler} {next : Nat}
  (reuses : Reuses router.next configs router.handlers handlers removed created next)
include reuses

theorem Reuses.created_ge {handler : RoutedHandler} (member : handler ∈ created) :
    router.next ≤ handler.process ∧ handler.process < next := by
  have inside := mem_map_of_mem (f := (·.process)) member
  rw [reuses.fresh, mem_range'_1] at inside
  rw [reuses.next]
  exact inside

theorem Reuses.bounded : ∀ handler ∈ handlers, handler.process < next := by
  intro handler member
  rcases mem_append.mp (reuses.same.subset (mem_append_left removed member)) with old | new
  · exact Nat.lt_of_lt_of_le (router.created handler old) (reuses.next ▸ Nat.le_add_right ..)
  · exact (reuses.created_ge new).2

theorem Reuses.distinct : (handlers.map (·.process)).Nodup := by
  have all : ((router.handlers ++ created).map (·.process)).Nodup := by
    rw [map_append]
    refine Nodup.append router.distinct (reuses.fresh ▸ nodup_range') ?_
    intro process old new
    obtain ⟨handler, member, rfl⟩ := mem_map.mp old
    obtain ⟨other, fresh, same⟩ := mem_map.mp new
    have later := (reuses.created_ge fresh).1
    have earlier := router.created handler member
    omega
  refine ((reuses.same.map _).nodup_iff.mpr all).sublist ?_
  rw [map_append]
  exact sublist_append_left ..

theorem Reuses.kept : (handlers.filter (·.process < router.next) ++ removed).Perm router.handlers ∧
    (handlers.filter fun handler => !decide (handler.process < router.next)).Perm created := by
  have old : ∀ handler ∈ router.handlers, decide (handler.process < router.next) = true :=
    fun handler member => decide_eq_true (router.created handler member)
  have new : ∀ handler ∈ created, decide (handler.process < router.next) = false :=
    fun handler member => decide_eq_false (Nat.not_lt_of_le (reuses.created_ge member).1)
  have left : ∀ handler ∈ removed, decide (handler.process < router.next) = true :=
    fun handler member => old handler (reuses.old handler member)
  constructor
  · have kept := reuses.same.filter fun handler => decide (handler.process < router.next)
    have none : created.filter (·.process < router.next) = [] := filter_eq_nil_iff.mpr (by simpa using new)
    rwa [filter_append, filter_append, filter_eq_self.mpr left, filter_eq_self.mpr old, none, append_nil] at kept
  · have rest := reuses.same.filter fun handler => !decide (handler.process < router.next)
    have kept : removed.filter (fun handler => !decide (handler.process < router.next)) = [] :=
      filter_eq_nil_iff.mpr (by simpa using left)
    have none : router.handlers.filter (fun handler => !decide (handler.process < router.next)) = [] :=
      filter_eq_nil_iff.mpr (by simpa using old)
    have all : created.filter (fun handler => !decide (handler.process < router.next)) = created :=
      filter_eq_self.mpr (by simpa using new)
    rwa [filter_append, filter_append, kept, none, all, append_nil] at rest

theorem Reuses.kept_count (config : HandlerConfig) :
    ((handlers.filter (·.process < router.next)).map (·.config)).count config =
      min ((router.handlers.map (·.config)).count config) (configs.count config) := by
  have before := (reuses.kept.1.map (·.config)).count_eq config
  have after := ((filter_append_perm (fun handler => decide (handler.process < router.next)) handlers).map
    (·.config)).count_eq config
  rw [map_append, count_append, (reuses.kept.2.map (·.config)).count_eq, reuses.configs] at after
  rw [map_append, count_append] at before
  -- A configuration for which a process was created has none among the removed ones.
  have either : (created.map (·.config)).count config = 0 ∨ (removed.map (·.config)).count config = 0 := by
    by_contra! both
    obtain ⟨handler, member, same⟩ := mem_map.mp (count_pos_iff.mp (Nat.pos_of_ne_zero both.1))
    obtain ⟨other, gone, equal⟩ := mem_map.mp (count_pos_iff.mp (Nat.pos_of_ne_zero both.2))
    exact reuses.needed handler member other gone (equal.trans same.symm)
  omega

end

theorem router_reuses (router : HandlerRouter) (configs : List HandlerConfig) :
    ∃ created, Reuses router.next configs router.handlers (reuse router.next configs (router.handlers.map some)).1
      (reuse router.next configs (router.handlers.map some)).2.1.reduceOption created
      (reuse router.next configs (router.handlers.map some)).2.2 := by
  have reuses := reuse_reuses router.next configs (router.handlers.map some)
  simpa [reduceOption] using reuses

def HandlerRouter.new (configs : List HandlerConfig) : HandlerRouter where
  handlers := configs.zipIdx.map fun (config, i) => ⟨config, i⟩
  next := configs.length
  created := by
    intro handler member
    obtain ⟨⟨config, i⟩, inside, rfl⟩ := mem_map.mp member
    simpa using snd_lt_of_mem_zipIdx inside
  distinct := by
    rw [map_map]
    exact nodup_zipIdx_map_snd configs

def HandlerRouter.reload (router : HandlerRouter) (configs : List HandlerConfig) : HandlerRouter × List RoutedHandler :=
  let reused := reuse router.next configs (router.handlers.map some)
  have reuses := router_reuses router configs
  (⟨reused.1, reused.2.2, reuses.elim fun _ h => h.bounded, reuses.elim fun _ h => h.distinct⟩, reused.2.1.reduceOption)

def HandlerRouter.configs (router : HandlerRouter) : List HandlerConfig := router.handlers.map (·.config)

def HandlerRouter.findHandler (router : HandlerRouter) (programHash : Bytes) : Option Nat :=
  Engine.findHandler (router.configs.map (·.matchers)) programHash

def HandlerRouter.selected (router : HandlerRouter) (programHash : Bytes) : Option HandlerConfig :=
  (router.findHandler programHash).bind (router.configs[·]?)

def HandlerRouter.keptFrom (earlier router : HandlerRouter) : List RoutedHandler :=
  router.handlers.filter (·.process < earlier.next)

theorem configs_new (configs : List HandlerConfig) : (HandlerRouter.new configs).configs = configs := by
  rw [HandlerRouter.configs, HandlerRouter.new, map_map]
  exact zipIdx_map_fst 0 configs

theorem reload_keeps_processes (router : HandlerRouter) (configs : List HandlerConfig) :
    (router.keptFrom (router.reload configs).1 ++ (router.reload configs).2).Perm router.handlers ∧
      (router.reload configs).1.configs = configs ∧
      (∀ config, ((router.keptFrom (router.reload configs).1).map (·.config)).count config =
        min (router.configs.count config) (configs.count config)) ∧
      ∀ programHash, (router.reload configs).1.selected programHash = (HandlerRouter.new configs).selected programHash := by
  obtain ⟨created, reuses⟩ := router_reuses router configs
  have same : (router.reload configs).1.configs = configs := reuses.configs
  refine ⟨reuses.kept.1, same, reuses.kept_count, fun programHash => ?_⟩
  unfold HandlerRouter.selected HandlerRouter.findHandler
  rw [same, configs_new]

def maxStderrLine : Nat := 4096

inductive StderrEnd where
  | eof
  | readError
  | panicked
  deriving DecidableEq, Repr

/-- What the calls of `read_line` find until the end of the stream: each line ends with its newline, the last one perhaps
with the stream. -/
def stderrLines (stream : Bytes) : List Bytes := stream.splitBy fun byte _ => byte ≠ 0x0a

-- `String::is_char_boundary` for an index inside the string.
def isCharBoundary (text : Bytes) (index : Nat) : Bool := !(text[index]?.any (Cbor.within 0x80 0xbf))

def drainStderr : List Bytes → StderrEnd
  | [] => .eof
  | line :: rest =>
    -- `read_line` fails with `InvalidData`.
    if Cbor.isUtf8 line = false then .readError
    else if maxStderrLine < line.length then
      if isCharBoundary line maxStderrLine then drainStderr rest else .panicked
    else drainStderr rest

def Loggable (line : Bytes) : Prop :=
  Cbor.isUtf8 line = true ∧ (maxStderrLine < line.length → isCharBoundary line maxStderrLine = true)

theorem drainStderr_eof_iff (lines : List Bytes) : drainStderr lines = .eof ↔ ∀ line ∈ lines, Loggable line := by
  induction lines with
  | nil => simp [drainStderr]
  | cons line rest ih =>
    rw [forall_mem_cons, ← ih, drainStderr, Loggable]
    cases Cbor.isUtf8 line with
    | false => simp
    | true =>
      by_cases long : maxStderrLine < line.length
      · cases isCharBoundary line maxStderrLine <;> simp [long]
      · simp [long]

theorem stderr_drained_iff (stream : Bytes) :
    drainStderr (stderrLines stream) = .eof ↔ ∀ line ∈ stderrLines stream, Loggable line :=
  drainStderr_eof_iff (stderrLines stream)

def longLine : Bytes := replicate 4095 0x61 ++ [0xc3, 0xa9]

theorem stderr_not_drained : drainStderr (stderrLines [0xff, 0x0a, 0x61, 0x0a]) = .readError ∧
    drainStderr (stderrLines longLine) = .panicked := by
  constructor
  · decide +kernel
  · decide +kernel

end Sonde.Gateway
