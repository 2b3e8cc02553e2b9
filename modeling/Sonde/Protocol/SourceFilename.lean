import Mathlib.Data.List.TakeWhile
import Sonde.Lib.Bytes

namespace Sonde.Protocol
open Lib List

def isSeparator (c : Char) : Bool := c == '/' || c == '\\'

def normalizeDisplayFilename (sourceFilename : Option String) : Option String :=
  match sourceFilename with
  | none => none
  | some name =>
    let trimmed := name.toList.reverse.dropWhile isSeparator
    match (trimmed.takeWhile fun c => !isSeparator c).reverse with
    | [] => none
    | drive :: ':' :: basename =>
      if drive.isAlpha then if basename = [] then none else some (String.ofList basename)
      else some (String.ofList (drive :: ':' :: basename))
    | basename => some (String.ofList basename)

/-! ## Normalising again -/

def isDrive : List Char → Bool
  | drive :: ':' :: _ => drive.isAlpha
  | _ => false

-- `instr` and `GLOB` select the names that are rewritten.
def selected (name : String) : Bool := name.toList.any isSeparator || isDrive name.toList

def migrateSourceFilename (sourceFilename : Option String) : Option String :=
  if sourceFilename.any selected then normalizeDisplayFilename sourceFilename else sourceFilename

/-- The columns `hash` and `source_filename` after a start of the gateway. -/
def migrateProgramSourceFilenames (rows : List (Bytes × Option String)) : List (Bytes × Option String) :=
  rows.map fun (hash, sourceFilename) => (hash, migrateSourceFilename sourceFilename)

def lastComponent (name : String) : List Char :=
  ((name.toList.reverse.dropWhile isSeparator).takeWhile fun c => !isSeparator c).reverse

def TwiceDriven (name : String) : Prop := isDrive (lastComponent name) ∧ isDrive ((lastComponent name).drop 2)

def stripDrive (component : List Char) : Option String :=
  let basename := if isDrive component then component.drop 2 else component
  if basename = [] then none else some (String.ofList basename)

variable (name : String)

theorem normalize_some : normalizeDisplayFilename (some name) = stripDrive (lastComponent name) := by
  unfold normalizeDisplayFilename stripDrive
  dsimp only
  rw [← lastComponent]
  split
  · rename_i empty
    simp [empty, isDrive]
  · rename_i drive basename split
    by_cases alpha : drive.isAlpha <;> simp [split, isDrive, alpha]
  · rename_i nonempty undriven
    have none : isDrive (lastComponent name) = false := by
      unfold isDrive
      split
      · rename_i drive basename split
        exact absurd split (undriven drive basename)
      · rfl
    rw [none, if_neg Bool.false_ne_true, if_neg nonempty]

def Plain (chars : List Char) : Prop := ∀ c ∈ chars, isSeparator c = false

theorem lastComponent_plain : Plain (lastComponent name) := by
  intro c mem
  simpa using mem_takeWhile_imp (mem_reverse.mp mem)

variable {chars : List Char}

theorem lastComponent_ofList (plain : Plain chars) : lastComponent (String.ofList chars) = chars := by
  have kept : ∀ c ∈ chars.reverse, isSeparator c = false := fun c mem => plain c (mem_reverse.mp mem)
  have undropped : chars.reverse.dropWhile isSeparator = chars.reverse := by
    cases reversed : chars.reverse with
    | nil => rfl
    | cons last before => simp [kept last (by simp [reversed])]
  rw [lastComponent, String.toList_ofList, undropped, takeWhile_eq_self_iff.mpr, reverse_reverse]
  simpa using kept

theorem normalize_plain (plain : Plain chars) (nonempty : chars ≠ []) :
    normalizeDisplayFilename (some (String.ofList chars)) = some (String.ofList chars) ↔ isDrive chars = false := by
  rw [normalize_some, lastComponent_ofList plain, stripDrive]
  cases driven : isDrive chars with
  | false => simp [nonempty]
  | true =>
    have shorter : chars.drop 2 ≠ chars := by
      intro same
      have := congrArg length same
      have := length_pos_iff.mpr nonempty
      simp only [length_drop] at *
      omega
    have renamed : String.ofList (chars.drop 2) ≠ String.ofList chars := fun same => shorter (String.ofList_injective same)
    simp [renamed]

theorem normalize_cases : (normalizeDisplayFilename (some name) = none ∧ ¬TwiceDriven name) ∨
      ∃ basename, normalizeDisplayFilename (some name) = some (String.ofList basename) ∧ basename ≠ [] ∧ Plain basename ∧
        (isDrive basename = true ↔ TwiceDriven name) := by
  have plain := lastComponent_plain name
  rw [normalize_some, stripDrive, TwiceDriven]
  cases driven : isDrive (lastComponent name) with
  | false =>
    by_cases empty : lastComponent name = []
    · simp [empty]
    · exact .inr ⟨_, by simp [empty], empty, plain, by simp [driven]⟩
  | true =>
    by_cases empty : (lastComponent name).drop 2 = []
    · simp [empty, isDrive]
    · exact .inr ⟨_, by simp [empty], empty, fun c mem => plain c (mem_of_mem_drop mem), by simp⟩

/-- Normalising the name again changes nothing, and the result is a bare basename. -/
def Projected (name : String) : Prop :=
  normalizeDisplayFilename (normalizeDisplayFilename (some name)) = normalizeDisplayFilename (some name) ∧
    ∀ result, normalizeDisplayFilename (some name) = some result → Plain result.toList ∧ isDrive result.toList = false

theorem projected_iff : Projected name ↔ ¬TwiceDriven name := by
  unfold Projected
  rcases normalize_cases name with ⟨empty, once⟩ | ⟨basename, found, nonempty, plain, driven⟩
  · rw [empty]
    simp [once, normalizeDisplayFilename]
  · rw [found, normalize_plain plain nonempty, ← driven]
    simp [plain]

theorem migrate_again : migrateSourceFilename (migrateSourceFilename (some name)) =
    migrateSourceFilename (some name) ↔ ¬TwiceDriven name := by
  cases chosen : selected name with
  | true =>
    have first : migrateSourceFilename (some name) = normalizeDisplayFilename (some name) := if_pos chosen
    rw [first]
    rcases normalize_cases name with ⟨empty, once⟩ | ⟨basename, found, nonempty, plain, driven⟩
    · simp [empty, once, migrateSourceFilename]
    · have rechosen : selected (String.ofList basename) = isDrive basename := by
        have none : basename.any isSeparator = false := by simpa [Plain] using plain
        simp [selected, none]
      rw [found, ← driven, migrateSourceFilename, Option.any_some, rechosen]
      by_cases again : isDrive basename
      · simp [again, normalize_plain plain nonempty]
      · simp [again]
  | false =>
    have kept : migrateSourceFilename (some name) = some name := by simp [migrateSourceFilename, chosen]
    obtain ⟨unseparated, undriven⟩ := Bool.or_eq_false_iff.mp chosen
    have plain : Plain name.toList := by simpa [Plain] using unseparated
    have whole : lastComponent name = name.toList := by simpa using lastComponent_ofList plain
    simp [kept, TwiceDriven, whole, undriven]

/-- A name is normalised for good, and the migration at every start leaves it, unless the drive that is stripped is followed
by another one. -/
theorem filename_projection (rows : List (Bytes × Option String)) : (Projected name ↔ ¬TwiceDriven name) ∧
      (migrateProgramSourceFilenames (migrateProgramSourceFilenames rows) = migrateProgramSourceFilenames rows ↔
        ∀ row ∈ rows, ∀ name, row.2 = some name → ¬TwiceDriven name) := by
  refine ⟨projected_iff name, ?_⟩
  unfold migrateProgramSourceFilenames
  rw [map_map, map_inj_left]
  refine forall₂_congr fun row member => ?_
  obtain ⟨hash, _ | name⟩ := row
  · simp [migrateSourceFilename]
  · simp [migrate_again]

theorem drive_left_behind : ¬Projected "C:D:x" ∧
    migrateProgramSourceFilenames [([], some "C:D:x")] = [([], some "D:x")] ∧
      migrateProgramSourceFilenames [([], some "D:x")] = [([], some "x")] := by
  refine ⟨fun projected => absurd (projected.2 "D:x" ?_).2 ?_, ?_, ?_⟩ <;> decide +kernel

end Sonde.Protocol
