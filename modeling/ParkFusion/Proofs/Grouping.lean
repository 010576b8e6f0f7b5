import Mathlib.Data.List.Induction
import Mathlib.Data.List.Nodup
import Mathlib.Data.List.Perm.Basic
import ParkFusion.Discovery.Parks

namespace ParkFusion.ParkDiscovery

open Matching

section AddTo

variable {isAnchor : Park → Bool} {pair : ParkMatch} {groups : List ParkGroup}

theorem addTo_anchors (isAnchor : Park → Bool) (pair : ParkMatch) (groups : List ParkGroup) :
    (addTo isAnchor pair groups).map (·.anchor) = groups.map (·.anchor) := by
  induction groups with
  | nil => rfl
  | cons g groups ih =>
    rw [addTo]
    split
    · rfl
    · simpa using ih

theorem mem_addTo {g : ParkGroup} (h : g ∈ addTo isAnchor pair groups) :
    g ∈ groups ∨ ∃ g' ∈ groups, isAnchor g'.anchor ∧ g = { g' with pairs := g'.pairs ++ [pair] } := by
  induction groups with
  | nil => simp [addTo] at h
  | cons g' groups ih =>
    rw [addTo] at h
    split at h
    · rename_i ha
      rcases List.mem_cons.mp h with rfl | h
      · exact Or.inr ⟨g', List.mem_cons_self, ha, rfl⟩
      · exact Or.inl (List.mem_cons_of_mem g' h)
    · rcases List.mem_cons.mp h with rfl | h
      · exact Or.inl List.mem_cons_self
      · rcases ih h with hg | ⟨k, hk, ha, he⟩
        · exact Or.inl (List.mem_cons_of_mem g' hg)
        · exact Or.inr ⟨k, List.mem_cons_of_mem g' hk, ha, he⟩

theorem addTo_pairs_perm (h : ∃ g ∈ groups, isAnchor g.anchor) :
    ((addTo isAnchor pair groups).flatMap (·.pairs)).Perm (groups.flatMap (·.pairs) ++ [pair]) := by
  induction groups with
  | nil => simp at h
  | cons g groups ih =>
    rw [addTo]
    split
    · simp only [List.flatMap_cons, List.append_assoc]
      exact List.perm_append_comm.append_left g.pairs
    · rename_i ha
      simp only [List.flatMap_cons, List.append_assoc]
      refine (ih ?_).append_left g.pairs
      obtain ⟨k, hk, hka⟩ := h
      rcases List.mem_cons.mp hk with rfl | hk
      · exact absurd hka ha
      · exact ⟨k, hk, hka⟩

theorem addTo_pairwise {κ : Type} [DecidableEq κ] {key : Park → κ} {k : κ} (pair : ParkMatch)
    (h : groups.Pairwise fun g g' ↦ key g.anchor = key g'.anchor → g'.pairs = []) :
    (addTo (fun p ↦ key p = k) pair groups).Pairwise fun g g' ↦
      key g.anchor = key g'.anchor → g'.pairs = [] := by
  induction groups with
  | nil => exact .nil
  | cons g groups ih =>
    obtain ⟨hg, hrest⟩ := List.pairwise_cons.mp h
    rw [addTo]
    split
    · exact List.pairwise_cons.mpr ⟨hg, hrest⟩
    · rename_i ha
      refine List.pairwise_cons.mpr ⟨fun g' hg' he ↦ ?_, ih hrest⟩
      rcases mem_addTo hg' with hg' | ⟨first, -, hfirst, rfl⟩
      · exact hg g' hg' he
      · exact absurd (decide_eq_true (he.trans (of_decide_eq_true hfirst))) ha

end AddTo

section Grouped

variable {κ : Type} {key : Park → κ}
variable {groups : List ParkGroup} {pairs : List ParkMatch} {pair : ParkMatch}

/-- The groups share out the pairs, each one to a group whose anchor has the key of its left
park. -/
structure Grouped (key : Park → κ) (groups : List ParkGroup) (pairs : List ParkMatch) : Prop where
  perm : (groups.flatMap (·.pairs)).Perm pairs
  sublist : ∀ g ∈ groups, g.pairs.Sublist pairs
  anchored : ∀ g ∈ groups, ∀ pair ∈ g.pairs, key pair.left = key g.anchor

theorem Grouped.new (h : Grouped key groups pairs) :
    Grouped key (groups ++ [⟨pair.left, [pair]⟩]) (pairs ++ [pair]) where
  perm := by simpa using h.perm.append_right [pair]
  sublist g hg := by
    rcases List.mem_append.mp hg with hg | hg
    · exact (h.sublist g hg).trans (List.sublist_append_left pairs [pair])
    · rw [List.mem_singleton.mp hg]
      exact List.sublist_append_right pairs [pair]
  anchored g hg := by
    rcases List.mem_append.mp hg with hg | hg
    · exact h.anchored g hg
    · rw [List.mem_singleton.mp hg]
      intro m hm
      rw [List.mem_singleton.mp hm]

theorem Grouped.exists_group (h : Grouped key groups pairs) (hp : pair ∈ pairs) :
    ∃ g ∈ groups, pair ∈ g.pairs :=
  List.mem_flatMap.mp (h.perm.symm.subset hp)

variable [DecidableEq κ]

theorem Grouped.addTo (h : Grouped key groups pairs)
    (hg : ∃ g ∈ groups, key g.anchor = key pair.left) :
    Grouped key (addTo (fun p ↦ key p = key pair.left) pair groups) (pairs ++ [pair]) where
  perm := (addTo_pairs_perm (by simpa using hg)).trans (h.perm.append_right [pair])
  sublist g hmem := by
    rcases mem_addTo hmem with hg | ⟨g', hg, -, rfl⟩
    · exact (h.sublist g hg).trans (List.sublist_append_left pairs [pair])
    · exact (h.sublist g' hg).append_right [pair]
  anchored g hmem := by
    rcases mem_addTo hmem with hg | ⟨g', hg, ha, rfl⟩
    · exact h.anchored g hg
    · intro m hm
      rcases List.mem_append.mp hm with hm | hm
      · exact h.anchored g' hg m hm
      · rw [List.mem_singleton.mp hm]
        exact (of_decide_eq_true ha).symm

end Grouped

def primaryGroups (primary : List Park) (pairs : List ParkMatch) : List ParkGroup :=
  pairs.foldl addPrimary (primary.map fun p ↦ ⟨p, []⟩)

theorem primaryGroups_anchors (primary : List Park) (pairs : List ParkMatch) :
    (primaryGroups primary pairs).map (·.anchor) = primary := by
  induction pairs using List.reverseRecOn with
  | nil => simp [primaryGroups, Function.comp_def]
  | append_singleton pairs pair ih =>
    rw [primaryGroups, List.foldl_append]
    exact (addTo_anchors _ pair _).trans ih

theorem primaryGroups_grouped {primary : List Park} {pairs : List ParkMatch}
    (h : ∀ pair ∈ pairs, pair.left ∈ primary) :
    Grouped (·.externalId) (primaryGroups primary pairs) pairs := by
  induction pairs using List.reverseRecOn with
  | nil =>
    refine ⟨by simp [primaryGroups, List.flatMap_map], ?_, ?_⟩ <;>
    · intro g hg
      obtain ⟨p, -, rfl⟩ := List.mem_map.mp hg
      simp
  | append_singleton pairs pair ih =>
    rw [primaryGroups, List.foldl_append]
    refine (ih fun m hm ↦ h m (List.mem_append_left _ hm)).addTo ?_
    have hp : pair.left ∈ (primaryGroups primary pairs).map (·.anchor) := by
      rw [primaryGroups_anchors]
      exact h pair (by simp)
    obtain ⟨g, hg, he⟩ := List.mem_map.mp hp
    exact ⟨g, hg, congrArg (·.externalId) he⟩

/-- Of the parks under one external id the first one takes all pairs. -/
theorem primaryGroups_pairwise (primary : List Park) (pairs : List ParkMatch) :
    (primaryGroups primary pairs).Pairwise fun g g' ↦
      g.anchor.externalId = g'.anchor.externalId → g'.pairs = [] := by
  induction pairs using List.reverseRecOn with
  | nil =>
    refine List.pairwise_of_forall_mem_list fun g _ g' hg' _ ↦ ?_
    obtain ⟨p, -, rfl⟩ := List.mem_map.mp hg'
    rfl
  | append_singleton pairs pair ih =>
    rw [primaryGroups, List.foldl_append]
    exact addTo_pairwise pair ih

def crossGroups (pairs : List ParkMatch) : List ParkGroup :=
  pairs.foldl addCross []

theorem crossGroups_concat (pairs : List ParkMatch) (pair : ParkMatch) :
    crossGroups (pairs ++ [pair]) = addCross (crossGroups pairs) pair := by
  simp [crossGroups]

theorem crossGroups_grouped (pairs : List ParkMatch) : Grouped Park.key (crossGroups pairs) pairs := by
  induction pairs using List.reverseRecOn with
  | nil => exact ⟨.nil, by simp [crossGroups], by simp [crossGroups]⟩
  | append_singleton pairs pair ih =>
    rw [crossGroups_concat, addCross]
    split
    · rename_i ha
      exact ih.addTo (by simpa using ha)
    · exact ih.new

theorem crossGroups_keys_nodup (pairs : List ParkMatch) :
    ((crossGroups pairs).map (·.anchor.key)).Nodup := by
  induction pairs using List.reverseRecOn with
  | nil => simp [crossGroups]
  | append_singleton pairs pair ih =>
    rw [crossGroups_concat, addCross]
    split
    · have he := addTo_anchors (·.key = pair.left.key) pair (crossGroups pairs)
      have hk := congrArg (List.map Park.key) he
      rw [List.map_map, List.map_map] at hk
      exact hk ▸ ih
    · rename_i ha
      rw [List.map_append, List.map_singleton, ← List.concat_eq_append]
      exact ih.concat (by simpa using ha)

theorem crossGroups_opened (pairs : List ParkMatch) :
    ∀ g ∈ crossGroups pairs, ∃ first rest, g.pairs = first :: rest ∧ first.left = g.anchor := by
  induction pairs using List.reverseRecOn with
  | nil => simp [crossGroups]
  | append_singleton pairs pair ih =>
    intro g hg
    rw [crossGroups_concat, addCross] at hg
    split at hg
    · rcases mem_addTo hg with hg | ⟨g', hg', -, rfl⟩
      · exact ih g hg
      · obtain ⟨first, rest, he, hl⟩ := ih g' hg'
        exact ⟨first, rest ++ [pair], by simp [he], hl⟩
    · rcases List.mem_append.mp hg with hg | hg
      · exact ih g hg
      · rw [List.mem_singleton.mp hg]
        exact ⟨pair, [], rfl, rfl⟩

end ParkFusion.ParkDiscovery
