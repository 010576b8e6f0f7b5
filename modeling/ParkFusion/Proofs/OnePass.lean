import ParkFusion.Proofs.MaximalPairing
import ParkFusion.Proofs.Reconciliation

namespace ParkFusion.ParkDiscovery

open Matching

section Gathered

variable {κ : Type} [DecidableEq κ] {key : Park → κ}
variable {groups : List ParkGroup} {pairs : List ParkMatch} {pair : ParkMatch} {g : ParkGroup}

theorem addTo_eq_map {k : κ} (h : (groups.map (key ·.anchor)).Nodup) (pair : ParkMatch) :
    addTo (fun p ↦ key p = k) pair groups =
      groups.map fun g ↦ if key g.anchor = k then { g with pairs := g.pairs ++ [pair] } else g := by
  induction groups with
  | nil => rfl
  | cons g groups ih =>
    rw [List.map_cons, List.nodup_cons] at h
    obtain ⟨hnew, hrest⟩ := h
    rw [addTo, List.map_cons]
    by_cases hg : key g.anchor = k
    · have hothers : ∀ g' ∈ groups, key g'.anchor ≠ k := by
        rintro g' hg' rfl
        exact hnew (hg ▸ List.mem_map_of_mem hg')
      rw [if_pos (decide_eq_true hg), if_pos hg, List.map_congr_left fun g' hg' ↦
        if_neg (hothers g' hg'), List.map_id']
    · rw [if_neg (by simpa using hg), if_neg hg, ih hrest]

/-- Every group has all pairs whose left park has the key of its anchor, in their order. -/
def Gathered (key : Park → κ) (groups : List ParkGroup) (pairs : List ParkMatch) : Prop :=
  ∀ g ∈ groups, g.pairs = pairs.filter fun pair ↦ key pair.left = key g.anchor

theorem Gathered.addTo (h : Gathered key groups pairs)
    (hd : (groups.map (key ·.anchor)).Nodup) (pair : ParkMatch) :
    Gathered key (addTo (fun p ↦ key p = key pair.left) pair groups) (pairs ++ [pair]) := by
  intro g hg
  rw [addTo_eq_map hd] at hg
  obtain ⟨g', hg', rfl⟩ := List.mem_map.mp hg
  rw [List.filter_append, apply_ite ParkGroup.anchor, ite_self]
  by_cases hk : key g'.anchor = key pair.left
  · rw [if_pos hk, h g' hg', List.filter_cons_of_pos (by simpa using hk.symm), List.filter_nil]
  · have hother : ¬ key pair.left = key g'.anchor := fun he ↦ hk he.symm
    rw [if_neg hk, h g' hg', List.filter_cons_of_neg (by simpa using hother), List.filter_nil,
      List.append_nil]

theorem Gathered.eq_map (h : Gathered key groups pairs) : groups = (groups.map (·.anchor)).map
    fun p ↦ ⟨p, pairs.filter fun pair ↦ key pair.left = key p⟩ := by
  rw [List.map_map]
  refine (List.map_id' groups).symm.trans (List.map_congr_left fun g hg ↦ ?_)
  exact congrArg (ParkGroup.mk g.anchor) (h g hg)

theorem primaryGroups_gathered {primary : List Park} (h : (primary.map (·.externalId)).Nodup)
    (pairs : List ParkMatch) :
    Gathered (·.externalId) (primaryGroups primary pairs) pairs := by
  induction pairs using List.reverseRecOn with
  | nil =>
    intro g hg
    obtain ⟨p, -, rfl⟩ := List.mem_map.mp hg
    rfl
  | append_singleton pairs pair ih =>
    rw [primaryGroups, List.foldl_append]
    refine ih.addTo ?_ pair
    rw [← primaryGroups_anchors primary pairs, List.map_map] at h
    exact h

theorem crossGroups_gathered (pairs : List ParkMatch) :
    Gathered Park.key (crossGroups pairs) pairs := by
  induction pairs using List.reverseRecOn with
  | nil => simp [Gathered, crossGroups]
  | append_singleton pairs pair ih =>
    rw [crossGroups_concat, addCross]
    split
    · exact ih.addTo (crossGroups_keys_nodup pairs) pair
    · rename_i hnew
      have hnew : ∀ g ∈ crossGroups pairs, g.anchor.key ≠ pair.left.key := by simpa using hnew
      have hgrouped := crossGroups_grouped pairs
      intro g hg
      rw [List.filter_append]
      rcases List.mem_append.mp hg with hg | hg
      · have hother : ¬ pair.left.key = g.anchor.key := fun he ↦ hnew g hg he.symm
        rw [List.filter_cons_of_neg (by simpa using hother), List.filter_nil, List.append_nil]
        exact ih g hg
      · -- a pair of this key that came before would have opened a group
        have hnone : pairs.filter (fun p ↦ p.left.key = pair.left.key) = [] := by
          refine List.filter_eq_nil_iff.mpr fun p hp he ↦ ?_
          obtain ⟨g', hg', hpg⟩ := hgrouped.exists_group hp
          exact hnew g' hg' ((hgrouped.anchored g' hg' p hpg).symm.trans (of_decide_eq_true he))
        rw [List.mem_singleton.mp hg, hnone]
        simp

end Gathered

section Cross

variable {pairs others : List ParkMatch}

theorem addTo_append {isAnchor : Park → Bool} {groups : List ParkGroup}
    (h : ∀ g ∈ groups, ¬ isAnchor g.anchor) (pair : ParkMatch) (rest : List ParkGroup) :
    addTo isAnchor pair (groups ++ rest) = groups ++ addTo isAnchor pair rest := by
  induction groups with
  | nil => rfl
  | cons g groups ih =>
    rw [List.cons_append, addTo, if_neg (h g List.mem_cons_self),
      ih fun g' hg' ↦ h g' (List.mem_cons_of_mem g hg')]
    rfl

theorem crossGroups_anchor_left {g : ParkGroup} (hg : g ∈ crossGroups pairs) :
    ∃ pair ∈ pairs, pair.left = g.anchor := by
  obtain ⟨first, rest, he, hl⟩ := crossGroups_opened pairs g hg
  exact ⟨first, ((crossGroups_grouped pairs).sublist g hg).subset (he ▸ List.mem_cons_self), hl⟩

theorem crossGroups_append
    (h : ∀ pair ∈ pairs, ∀ other ∈ others, pair.left.key ≠ other.left.key) :
    crossGroups (pairs ++ others) = crossGroups pairs ++ crossGroups others := by
  induction others using List.reverseRecOn with
  | nil => simp [crossGroups]
  | append_singleton others other ih =>
    have hfirst : ∀ g ∈ crossGroups pairs, g.anchor.key ≠ other.left.key := by
      intro g hg
      obtain ⟨pair, hp, hl⟩ := crossGroups_anchor_left hg
      rw [← hl]
      exact h pair hp other (by simp)
    have hbefore := ih fun pair hp o ho ↦ h pair hp o (List.mem_append_left _ ho)
    have hany : (crossGroups pairs ++ crossGroups others).any (·.anchor.key = other.left.key) =
        (crossGroups others).any (·.anchor.key = other.left.key) := by
      rw [List.any_append, List.any_eq_false.mpr (by simpa using hfirst), Bool.false_or]
    rw [← List.append_assoc, crossGroups_concat, crossGroups_concat, hbefore, addCross, addCross,
      hany]
    split
    · exact addTo_append (by simpa using hfirst) other (crossGroups others)
    · exact List.append_assoc ..

end Cross

section Primary

variable {primary : List Park} {pairs : List ParkMatch} {g : ParkGroup}

theorem key_eq_iff_of_ids_nodup (h : (primary.map (·.externalId)).Nodup) {p q : Park}
    (hp : p ∈ primary) (hq : q ∈ primary) : p.key = q.key ↔ p.externalId = q.externalId :=
  ⟨congrArg Key.externalId, fun he ↦ congrArg Park.key (List.inj_on_of_nodup_map h hp hq he)⟩

/-- Pairs that all start from one list come to the same groups, whether the groups stand ready for
its parks or are opened by the pairs. -/
theorem crossGroups_perm_primaryGroups (h : (primary.map (·.externalId)).Nodup)
    (hleft : ∀ pair ∈ pairs, pair.left ∈ primary) :
    (crossGroups pairs).Perm ((primaryGroups primary pairs).filter (!·.pairs.isEmpty)) := by
  have hcross : (crossGroups pairs).Nodup :=
    List.Nodup.of_map (·.anchor.key) (crossGroups_keys_nodup pairs)
  have hprimary : (primaryGroups primary pairs).Nodup := by
    refine List.Nodup.of_map (·.anchor) ?_
    rw [primaryGroups_anchors]
    exact h.of_map
  have hanchor : ∀ g ∈ crossGroups pairs, g.anchor ∈ primary := by
    intro g hg
    obtain ⟨pair, hp, hl⟩ := crossGroups_anchor_left hg
    exact hl ▸ hleft pair hp
  have hsame : ∀ p ∈ primary, pairs.filter (fun pair ↦ pair.left.key = p.key) =
      pairs.filter fun pair ↦ pair.left.externalId = p.externalId := by
    intro p hp
    refine List.filter_congr fun pair hpair ↦ decide_eq_decide.mpr ?_
    exact key_eq_iff_of_ids_nodup h (hleft pair hpair) hp
  have hgathered := (primaryGroups_gathered h pairs).eq_map
  rw [primaryGroups_anchors] at hgathered
  refine (List.perm_ext_iff_of_nodup hcross (hprimary.filter _)).mpr fun g ↦ ?_
  rw [List.mem_filter, hgathered, List.mem_map]
  constructor
  · intro hg
    obtain ⟨first, rest, he, -⟩ := crossGroups_opened pairs g hg
    refine ⟨⟨g.anchor, hanchor g hg, ?_⟩, by simp [he]⟩
    rw [← hsame g.anchor (hanchor g hg), ← crossGroups_gathered pairs g hg]
  · rintro ⟨⟨p, hp, rfl⟩, hne⟩
    obtain ⟨pair, hpair, hid⟩ : ∃ pair ∈ pairs, pair.left.externalId = p.externalId := by
      simpa using hne
    obtain ⟨g, hg, hpg⟩ := (crossGroups_grouped pairs).exists_group hpair
    have hkey : pair.left.key = g.anchor.key := (crossGroups_grouped pairs).anchored g hg pair hpg
    have hpkey : pair.left.key = p.key :=
      (key_eq_iff_of_ids_nodup h (hleft pair hpair) hp).mpr hid
    have hgp : g.anchor = p := by
      refine List.inj_on_of_nodup_map h (hanchor g hg) hp ?_
      exact congrArg Key.externalId (hkey.symm.trans hpkey)
    rw [← hsame p hp, ← hgp, ← crossGroups_gathered pairs g hg]
    exact hg

end Primary

/-- The groups and the lone parks when no list counts as the primary's: each one is paired with all
later ones. -/
def onePass (rule : ParkRule) (lists : List (List Park)) : List ParkGroup × List Park :=
  let (pairs, rest) := crossPairs rule lists.length lists
  (crossGroups pairs, rest.flatten.filter fun p ↦ !(pairs.map (·.left.key)).contains p.key)

section Reconcile

variable {rule : ParkRule} {primary : List Park} {secondaries : List (List Park)}

theorem onePass_cons (rule : ParkRule) (primary : List Park) (secondaries : List (List Park)) :
    onePass rule (primary :: secondaries) =
      let pairs := (primaryRow rule primary secondaries).1 ++ (secondaryPass rule primary secondaries).1
      (crossGroups pairs, (primary ++ (secondaryPass rule primary secondaries).2.flatten).filter
        fun p ↦ !(pairs.map (·.left.key)).contains p.key) := rfl

variable (h : Separate (primary :: secondaries))
include h

theorem secondary_source_ne {p q : Park} (hp : p ∈ primary)
    (hq : q ∈ (secondaryPass rule primary secondaries).2.flatten) : p.source ≠ q.source := by
  obtain ⟨l, hl, hql⟩ := List.mem_flatten.mp (crossRow_rest_mem (crossPairs_rest_mem hq))
  exact (List.pairwise_cons.mp h.apart).1 l hl p hp q hql

theorem reconcile_groups_perm : (reconcile rule primary secondaries).groups.Perm
    (onePass rule (primary :: secondaries)).1 := by
  have happend : crossGroups ((primaryRow rule primary secondaries).1 ++
      (secondaryPass rule primary secondaries).1) =
      crossGroups (primaryRow rule primary secondaries).1 ++
        crossGroups (secondaryPass rule primary secondaries).1 := by
    refine crossGroups_append fun pair hp other ho hkey ↦ ?_
    exact secondary_source_ne h (crossRow_left_mem hp) (crossPairs_left_mem ho)
      (congrArg Key.source hkey)
  rw [onePass_cons, reconcile_eq]
  dsimp only
  rw [happend]
  refine List.Perm.append_right _ (List.Perm.symm ?_)
  exact crossGroups_perm_primaryGroups (h.ids primary List.mem_cons_self) fun _ hp ↦
    crossRow_left_mem hp

theorem reconcile_singleSource : (reconcile rule primary secondaries).singleSource =
    (onePass rule (primary :: secondaries)).2 := by
  have hids := h.ids primary List.mem_cons_self
  have hgathered := (primaryGroups_gathered hids (primaryRow rule primary secondaries).1).eq_map
  rw [primaryGroups_anchors] at hgathered
  rw [onePass_cons, reconcile_eq]
  dsimp only
  rw [hgathered, List.filter_map, List.map_map, List.filter_append, unpaired]
  refine congrArg₂ (· ++ ·) ?_ (List.filter_congr fun p hp ↦ ?_)
  · refine (List.map_id' _).trans (List.filter_congr fun p hp ↦ Bool.eq_iff_iff.mpr ?_)
    simp only [Function.comp_apply, List.isEmpty_iff, List.filter_eq_nil_iff, decide_eq_true_eq,
      Bool.not_eq_true', Bool.eq_false_iff, ne_eq, List.contains_iff_mem, List.map_append,
      List.mem_append, List.mem_map, not_or, not_exists, not_and]
    constructor
    · intro hnone
      refine ⟨fun pair hpair he ↦ hnone pair hpair (congrArg Key.externalId he),
        fun pair hpair he ↦ ?_⟩
      exact secondary_source_ne h hp (crossPairs_left_mem hpair) (congrArg Key.source he.symm)
    · rintro ⟨hnone, -⟩ pair hpair he
      exact hnone pair hpair ((key_eq_iff_of_ids_nodup hids (crossRow_left_mem hpair) hp).mpr he)
  · have hprimary : p.key ∉ (primaryRow rule primary secondaries).1.map (·.left.key) := by
      intro hm
      obtain ⟨pair, hpair, he⟩ := List.mem_map.mp hm
      exact secondary_source_ne h (crossRow_left_mem hpair) hp (congrArg Key.source he)
    simp [hprimary]

end Reconcile

end ParkFusion.ParkDiscovery
