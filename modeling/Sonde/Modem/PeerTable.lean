import Mathlib

/-!
# The radio's peer table

`PeerTable` holds the at most 20 addresses that ESP-NOW can send to, each with the tick of its last use.
-/

namespace Sonde.Modem
open List

abbrev Mac := BitVec 48

def maxPeers : Nat := 20

structure PeerEntry where
  mac : Mac
  lastUsed : Nat
deriving DecidableEq

structure PeerTable where
  entries : List PeerEntry := []
  tick : Nat := 0
deriving DecidableEq

theorem ne_nil_of_full {entries : List PeerEntry} (full : maxPeers ≤ entries.length) : entries ≠ [] :=
  ne_nil_of_length_pos (Nat.lt_of_lt_of_le (by decide) full)

def PeerTable.ensurePeer (table : PeerTable) (mac : Mac) : Option Mac × PeerTable :=
  let tick := min (table.tick + 1) (2 ^ 64 - 1)
  match table.entries.findIdx? (·.mac == mac) with
  | some i => (none, ⟨table.entries.modify i ({ · with lastUsed := tick }), tick⟩)
  | none =>
    if full : maxPeers ≤ table.entries.length then
      let lruIdx := table.entries.minIdxOn (·.lastUsed) (ne_nil_of_full full)
      have : lruIdx < table.entries.length := List.minIdxOn_lt_length (ne_nil_of_full full)
      (some table.entries[lruIdx].mac, ⟨table.entries.set lruIdx ⟨mac, tick⟩, tick⟩)
    else (none, ⟨table.entries ++ [⟨mac, tick⟩], tick⟩)

def peersAfter (macs : List Mac) : PeerTable := macs.foldl (fun table mac => (table.ensurePeer mac).2) {}

def PeerTable.macs (table : PeerTable) : List Mac := table.entries.map (·.mac)

/-- The addresses passed so far, each once, the most recently used first. -/
def recency (macs : List Mac) : List Mac := macs.dedup.reverse

variable (macs : List Mac)

theorem dedup_snoc (mac : Mac) : (macs ++ [mac]).dedup = macs.dedup.erase mac ++ [mac] := by
  induction macs with
  | nil => rfl
  | cons first macs ih =>
    rw [cons_append]
    by_cases again : first ∈ macs
    · rw [dedup_cons_of_mem (mem_append_left _ again), dedup_cons_of_mem again, ih]
    · rw [dedup_cons_of_notMem again]
      by_cases same : first = mac
      · subst same
        rw [dedup_cons_of_mem (by simp), ih, erase_cons_head, erase_of_not_mem (mt mem_dedup.mp again)]
      · rw [dedup_cons_of_notMem (by simp [again, same]), ih, erase_cons_tail (by simpa using same)]
        rfl

theorem recency_nodup : (recency macs).Nodup := nodup_reverse.mpr (nodup_dedup macs)

theorem recency_snoc (mac : Mac) : recency (macs ++ [mac]) = mac :: (recency macs).erase mac := by
  unfold recency
  rw [dedup_snoc, reverse_append, (nodup_dedup macs).erase_eq_filter,
    (nodup_reverse.mpr (nodup_dedup macs)).erase_eq_filter, filter_reverse]
  rfl

theorem take_erase (size : Nat) (recents : List Mac) (mac : Mac) : (recents.erase mac).take size =
    if mac ∈ recents.take (size + 1) then (recents.take (size + 1)).erase mac else recents.take size := by
  induction recents generalizing size with
  | nil => simp
  | cons first recents ih =>
    by_cases same : first = mac
    · simp [same]
    · rw [erase_cons_tail (by simpa using same), take_succ_cons, erase_cons_tail (by simpa using same)]
      cases size with
      | zero => simp [Ne.symm same]
      | succ size =>
        rw [take_succ_cons, ih]
        simp only [mem_cons, Ne.symm same, false_or, take_succ_cons]
        split <;> rfl

theorem take_recency_erase (mac : Mac) : ((recency macs).erase mac).take 19 =
    if mac ∈ (recency macs).take maxPeers then ((recency macs).take maxPeers).erase mac else (recency macs).take 19 :=
  take_erase 19 (recency macs) mac

/-! ## The table follows it -/

/-- The entries of the table, in the order of their ticks, are the most recently used addresses. -/
structure Holds (macs : List Mac) (table : PeerTable) (recents : List PeerEntry) : Prop where
  tick : table.tick = macs.length
  same : table.entries.Perm recents
  latest : recents.map (·.mac) = (recency macs).take maxPeers
  sorted : recents.Pairwise (fun newer older => older.lastUsed < newer.lastUsed)
  past : ∀ entry ∈ recents, entry.lastUsed ≤ macs.length

section
variable {macs : List Mac} {table : PeerTable} {recents : List PeerEntry} {mac : Mac} (holds : Holds macs table recents)

include holds in
theorem Holds.macs_perm : table.macs.Perm ((recency macs).take maxPeers) := holds.latest ▸ holds.same.map _

include holds in
theorem Holds.length : table.entries.length = recents.length := holds.same.length_eq

include holds in
theorem Holds.next {entries kept : List PeerEntry} (part : kept.Sublist recents)
    (after : entries.Perm (⟨mac, macs.length + 1⟩ :: kept))
    (latest : kept.map (·.mac) = ((recency macs).erase mac).take 19) :
    Holds (macs ++ [mac]) ⟨entries, macs.length + 1⟩ (⟨mac, macs.length + 1⟩ :: kept) where
  tick := by simp
  same := after
  latest := by rw [recency_snoc, map_cons, latest]; rfl
  sorted := by
    refine pairwise_cons.mpr ⟨fun entry member => ?_, holds.sorted.sublist part⟩
    exact Nat.lt_succ_of_le (holds.past entry (part.subset member))
  past := by
    intro entry member
    rw [length_append]
    rcases mem_cons.mp member with rfl | member
    · exact Nat.le_refl _
    · exact Nat.le_succ_of_le (holds.past entry (part.subset member))

theorem set_perm {entries : List PeerEntry} {i : Nat} (bound : i < entries.length) (entry : PeerEntry) :
    (entries.set i entry).Perm (entry :: entries.erase entries[i]) := by
  have split := getElem_cons_eraseIdx_perm (l := entries.set i entry) (n := i) (by simpa using bound)
  rw [getElem_set_self, eraseIdx_set_eq] at split
  exact split.symm.trans ((erase_getElem bound).symm.cons _)

theorem map_erase_mac {gone : PeerEntry} (distinct : (recents.map (·.mac)).Nodup) (member : gone ∈ recents) :
    (recents.erase gone).map (·.mac) = (recents.map (·.mac)).erase gone.mac := by
  obtain ⟨newer, older, rfl⟩ := append_of_mem member
  rw [map_append, map_cons] at distinct ⊢
  have fresh : gone.mac ∉ newer.map (·.mac) := fun again => disjoint_of_nodup_append distinct again (mem_cons_self ..)
  rw [erase_append_right _ (fun again => fresh (mem_map_of_mem again)), erase_cons_head,
    erase_append_right _ fresh, erase_cons_head, map_append]

include holds

theorem Holds.hit {i : Nat} (bound : i < table.entries.length) (found : table.entries[i].mac = mac) :
    Holds (macs ++ [mac]) ⟨table.entries.modify i ({ · with lastUsed := macs.length + 1 }), macs.length + 1⟩
      (⟨mac, macs.length + 1⟩ :: recents.erase table.entries[i]) := by
  have changed : table.entries.modify i ({ · with lastUsed := macs.length + 1 }) =
      table.entries.set i ⟨mac, macs.length + 1⟩ := by
    simp [modify_eq_set_getElem?, bound, found]
  have member := holds.same.subset (getElem_mem bound)
  have known : mac ∈ (recency macs).take maxPeers := holds.latest ▸ found ▸ mem_map_of_mem member
  have distinct : (recents.map (·.mac)).Nodup := holds.latest ▸ (recency_nodup macs).sublist (take_sublist ..)
  refine holds.next erase_sublist ?_ ?_
  · rw [changed]
    exact (set_perm bound _).trans ((holds.same.erase _).cons _)
  · rw [map_erase_mac distinct member, found, holds.latest, take_recency_erase, if_pos known]

theorem Holds.absent (absent : mac ∉ table.macs) : ((recency macs).erase mac).take 19 = (recency macs).take 19 := by
  rw [take_recency_erase, if_neg (mt holds.macs_perm.mem_iff.mpr absent)]

theorem Holds.insert (absent : mac ∉ table.macs) (room : table.entries.length < maxPeers) :
    Holds (macs ++ [mac]) ⟨table.entries ++ [⟨mac, macs.length + 1⟩], macs.length + 1⟩
      (⟨mac, macs.length + 1⟩ :: recents) := by
  refine holds.next (Sublist.refl _) ((perm_append_singleton _ _).trans (holds.same.cons _)) ?_
  have short : (recency macs).length < maxPeers := by
    have size := congrArg List.length holds.latest
    rw [length_map, ← holds.length, length_take] at size
    omega
  rw [holds.latest, holds.absent absent, take_of_length_le (Nat.le_of_lt short),
    take_of_length_le (Nat.le_of_lt_succ short)]

theorem Holds.lru (some : recents ≠ []) (full : table.entries ≠ []) :
    table.entries.minOn (·.lastUsed) full = recents.getLast some := by
  have member := holds.same.subset (List.minOn_mem (f := (·.lastUsed)) (h := full))
  have least : (table.entries.minOn (·.lastUsed) full).lastUsed ≤ (recents.getLast some).lastUsed :=
    List.apply_minOn_le_of_mem (holds.same.symm.subset (getLast_mem some))
  have sorted := holds.sorted
  rw [← dropLast_append_getLast some] at member sorted
  rcases mem_append.mp member with earlier | last
  · have older := (pairwise_append.mp sorted).2.2 _ earlier _ (mem_singleton_self _)
    omega
  · exact mem_singleton.mp last

theorem Holds.evict (absent : mac ∉ table.macs)
    (full : maxPeers ≤ table.entries.length) :
    let lruIdx := table.entries.minIdxOn (·.lastUsed) (ne_nil_of_full full)
    Holds (macs ++ [mac]) ⟨table.entries.set lruIdx ⟨mac, macs.length + 1⟩, macs.length + 1⟩
      (⟨mac, macs.length + 1⟩ :: recents.dropLast) := by
  intro lruIdx
  have some : recents ≠ [] := ne_nil_of_full (holds.length ▸ full)
  refine holds.next (dropLast_sublist _) ?_ ?_
  · refine (set_perm (List.minIdxOn_lt_length _) _).trans (Perm.cons _ ?_)
    rw [List.getElem_minIdxOn, holds.lru some]
    refine (holds.same.erase _).trans (cons_perm_iff_perm_erase.mp ?_).2.symm
    have split := perm_append_singleton (recents.getLast some) recents.dropLast
    rw [dropLast_append_getLast] at split
    exact split.symm
  · have size := congrArg List.length holds.latest
    rw [length_map, ← holds.length] at size
    rw [map_dropLast, holds.latest, holds.absent absent, dropLast_eq_take, ← size, take_take]
    rw [length_take] at size
    congr 1
    unfold maxPeers at full size ⊢
    omega

theorem Holds.ensurePeer (few : macs.length + 1 < 2 ^ 64) :
    (∃ recents', Holds (macs ++ [mac]) (table.ensurePeer mac).2 recents') ∧
      (table.ensurePeer mac).1 = if maxPeers ≤ table.entries.length ∧ mac ∉ table.macs
        then ((recency macs).take maxPeers).getLast? else none := by
  have tick : min (table.tick + 1) (2 ^ 64 - 1) = macs.length + 1 := by rw [holds.tick]; omega
  unfold PeerTable.ensurePeer
  simp only [tick]
  cases found : table.entries.findIdx? (·.mac == mac) with
  | some i =>
    obtain ⟨bound, same, -⟩ := findIdx?_eq_some_iff_getElem.mp found
    have member : mac ∈ table.macs := mem_map.mpr ⟨_, getElem_mem bound, eq_of_beq same⟩
    exact ⟨⟨_, holds.hit bound (eq_of_beq same)⟩, by simp [member]⟩
  | none =>
    have absent : mac ∉ table.macs := by
      intro member
      obtain ⟨entry, member, same⟩ := mem_map.mp member
      have other := findIdx?_eq_none_iff.mp found entry member
      exact ne_of_beq_false other same
    by_cases full : maxPeers ≤ table.entries.length
    · simp only [full, absent, dite_true, not_false_eq_true, and_self, if_true]
      refine ⟨⟨_, holds.evict absent full⟩, ?_⟩
      rw [List.getElem_minIdxOn, holds.lru (ne_nil_of_full (holds.length ▸ full)), ← holds.latest, getLast?_map,
        getLast?_eq_some_getLast (ne_nil_of_full (holds.length ▸ full))]
      rfl
    · simp only [full, dite_false, false_and, if_false, and_true]
      exact ⟨_, holds.insert absent (Nat.lt_of_not_le full)⟩

end

theorem peersAfter_holds (few : macs.length < 2 ^ 64) : ∃ recents, Holds macs (peersAfter macs) recents := by
  induction macs using reverseRecOn with
  | nil => exact ⟨[], rfl, .nil, rfl, .nil, by simp⟩
  | append_singleton macs mac ih =>
    rw [length_append] at few
    obtain ⟨recents, holds⟩ := ih (Nat.lt_of_succ_lt few)
    rw [peersAfter, foldl_append]
    exact (holds.ensurePeer few).1

theorem peer_table_is_lru (macs : List Mac) (few : macs.length < 2 ^ 64) :
    (peersAfter macs).macs.Nodup ∧ (peersAfter macs).macs.Perm ((recency macs).take maxPeers) ∧
      ∀ earlier mac later, macs = earlier ++ mac :: later →
        ((peersAfter earlier).ensurePeer mac).1 =
          if maxPeers ≤ (peersAfter earlier).entries.length ∧ mac ∉ (peersAfter earlier).macs
          then ((recency earlier).take maxPeers).getLast? else none := by
  obtain ⟨recents, holds⟩ := peersAfter_holds macs few
  have perm := holds.macs_perm
  refine ⟨perm.nodup_iff.mpr ((recency_nodup macs).sublist (take_sublist ..)), perm, ?_⟩
  rintro earlier mac later rfl
  rw [length_append, length_cons] at few
  obtain ⟨recents, holds⟩ := peersAfter_holds earlier (by omega)
  exact (holds.ensurePeer (by omega)).2

theorem peer_table_is_lru_evicts : ((peersAfter ((range 20).map (BitVec.ofNat 48))).ensurePeer 20).1 = some 0 := by
  have lru := (peer_table_is_lru ((range 20).map (BitVec.ofNat 48) ++ [20]) (by decide)).2.2 _ 20 [] rfl
  rw [lru]
  decide +kernel

end Sonde.Modem
