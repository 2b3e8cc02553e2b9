import Mathlib.Data.List.AList

namespace Sonde.Lib

abbrev Table (κ ρ : Type*) := AList fun _ : κ => ρ

namespace Table
variable {κ ρ : Type*} [DecidableEq κ]

def mapRows (f : κ → ρ → ρ) (t : Table κ ρ) : Table κ ρ := ⟨t.entries.map fun e => ⟨e.1, f e.1 e.2⟩, t.nodupKeys.map₂ f⟩

def update (k : κ) (f : ρ → ρ) (t : Table κ ρ) : Table κ ρ := t.mapRows fun k' r => if k' = k then f r else r

def keysWhere (p : ρ → Bool) (t : Table κ ρ) : List κ := (t.entries.filter fun e => p e.2).map (·.1)

def ForAll (t : Table κ ρ) (P : κ → ρ → Prop) : Prop := ∀ k r, t.lookup k = some r → P k r

@[simp] theorem lookup_mapRows (f : κ → ρ → ρ) (t : Table κ ρ) (k : κ) : (mapRows f t).lookup k = (t.lookup k).map (f k) :=
  List.dlookup_map₂ k

@[simp] theorem lookup_update (k k' : κ) (f : ρ → ρ) (t : Table κ ρ) :
    (t.update k f).lookup k' = if k' = k then (t.lookup k').map f else t.lookup k' := by
  unfold update
  rw [lookup_mapRows]
  split <;> simp

variable {t : Table κ ρ}

theorem mapRows_eq_self {f : κ → ρ → ρ} (same : t.ForAll fun k r => f k r = r) : t.mapRows f = t := by
  refine AList.ext ?_
  calc t.entries.map (fun e => (⟨e.1, f e.1 e.2⟩ : Σ _ : κ, ρ)) = t.entries.map id := by
        refine List.map_congr_left fun e member => ?_
        rw [same e.1 e.2 (AList.mem_lookup_iff.mpr member)]
        rfl
    _ = t.entries := List.map_id _

theorem update_id (k : κ) (t : Table κ ρ) : (t.update k fun r => r) = t := mapRows_eq_self fun _ _ _ => ite_self _

theorem update_update (k : κ) (f g : ρ → ρ) (t : Table κ ρ) : (t.update k f).update k g = t.update k fun r => g (f r) := by
  refine AList.ext ((List.map_map ..).trans (List.map_congr_left fun e _ => ?_))
  by_cases here : e.1 = k <;> simp [here]

variable {k : κ}

theorem mem_keysWhere {p : ρ → Bool} : k ∈ keysWhere p t ↔ ∃ r, t.lookup k = some r ∧ p r = true := by
  simp only [keysWhere, List.mem_map, List.mem_filter]
  constructor
  · rintro ⟨⟨k', r⟩, ⟨member, holds⟩, rfl⟩
    exact ⟨r, AList.mem_lookup_iff.mpr member, holds⟩
  · rintro ⟨r, found, holds⟩
    exact ⟨⟨k, r⟩, ⟨AList.mem_lookup_iff.mp found, holds⟩, rfl⟩

omit [DecidableEq κ] in
theorem nodup_keysWhere (p : ρ → Bool) (t : Table κ ρ) : (keysWhere p t).Nodup :=
  (List.filter_sublist.map _).nodup t.keys_nodup

variable {P : κ → ρ → Prop}

theorem ForAll.empty : ForAll (∅ : Table κ ρ) P := by
  intro k r h
  simp at h

theorem ForAll.insert {r : ρ} (h : ForAll t P) (hr : P k r) : ForAll (t.insert k r) P := by
  intro k' r' found
  by_cases same : k' = k
  · subst same
    rw [AList.lookup_insert, Option.some.injEq] at found
    exact found ▸ hr
  · rw [AList.lookup_insert_ne same] at found
    exact h k' r' found

variable {Q : κ → ρ → Prop}

theorem ForAll.update {f : ρ → ρ} (h : ForAll t P)
    (changed : ∀ r, P k r → Q k (f r)) (kept : ∀ k' r, k' ≠ k → P k' r → Q k' r) : ForAll (t.update k f) Q := by
  intro k' r found
  rw [lookup_update] at found
  split_ifs at found with here
  · subst here
    obtain ⟨old, wasFound, rfl⟩ := Option.map_eq_some_iff.mp found
    exact changed old (h k' old wasFound)
  · exact kept k' r here (h k' r found)

theorem isSome_lookup_update (k k' : κ) (f : ρ → ρ) (t : Table κ ρ) :
    ((t.update k f).lookup k').isSome = (t.lookup k').isSome := by
  rw [lookup_update]
  split_ifs <;> simp

theorem ForAll.mapRows {f : κ → ρ → ρ} (h : ForAll t P) (hf : ∀ k r, P k r → Q k (f k r)) : ForAll (t.mapRows f) Q := by
  intro k r found
  rw [lookup_mapRows] at found
  obtain ⟨r', old, rfl⟩ := Option.map_eq_some_iff.mp found
  exact hf k r' (h k r' old)

theorem ForAll.mono (h : ForAll t P) (hq : ∀ k r, P k r → Q k r) : ForAll t Q := fun k r found => hq k r (h k r found)

end Table

end Sonde.Lib
