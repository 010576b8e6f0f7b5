import ParkFusion.Proofs.CrossMatching
import ParkFusion.Proofs.Grouping

namespace ParkFusion

open Matching

namespace ParkGroup

/-- All pairs of the group are pairs of its anchor. -/
def Anchored (g : ParkGroup) : Prop :=
  ∀ pair ∈ g.pairs, pair.left = g.anchor

variable {g : ParkGroup}

instance (g : ParkGroup) : Decidable g.Anchored :=
  inferInstanceAs (Decidable (∀ pair ∈ g.pairs, pair.left = g.anchor))

/-- A group whose pairs all have the key of its anchor on their left, none of them two parks of one
source, and no two of them right parks of one source. -/
theorem sources_nodup (hkey : ∀ pair ∈ g.pairs, pair.left.key = g.anchor.key)
    (hs : (g.pairs.map ParkDiscovery.slot).Nodup)
    (hne : ∀ pair ∈ g.pairs, pair.left.source ≠ pair.right.source) :
    (g.members.map (·.source)).Nodup := by
  have hslot : g.pairs.map ParkDiscovery.slot =
      (g.pairs.map (·.right.source)).map (fun source ↦ (g.anchor.key, source)) := by
    rw [List.map_map]
    exact List.map_congr_left fun pair hp ↦ congrArg (·, pair.right.source) (hkey pair hp)
  simp only [members, List.map_cons, List.map_map, List.nodup_cons]
  refine ⟨fun hm ↦ ?_, (hslot ▸ hs).of_map _⟩
  obtain ⟨pair, hp, he⟩ := List.mem_map.mp hm
  exact hne pair hp ((congrArg Key.source (hkey pair hp)).trans he.symm)

end ParkGroup

namespace ParkDiscovery

def occurrences (d : ParkDiscovery) : List Park :=
  d.groups.flatMap (·.members) ++ d.singleSource

theorem members_perm (groups : List ParkGroup) :
    (groups.flatMap (·.members)).Perm
      (groups.map (·.anchor) ++ (groups.flatMap (·.pairs)).map (·.right)) := by
  induction groups with
  | nil => simp
  | cons g groups ih =>
    simp only [List.flatMap_cons, List.map_cons, List.map_append, ParkGroup.members,
      List.cons_append]
    exact List.Perm.cons _ ((ih.append_left _).trans (List.perm_append_comm_assoc _ _ _))

/-- Lists of different sources, none of which has two parks under one external id. -/
structure Separate (lists : List (List Park)) : Prop where
  apart : lists.Pairwise Apart
  ids : ∀ l ∈ lists, (l.map (·.externalId)).Nodup

theorem key_nodup_of_ids {parks : List Park} (h : (parks.map (·.externalId)).Nodup) :
    (parks.map Park.key).Nodup := by
  refine List.Nodup.of_map Key.externalId ?_
  rw [List.map_map]
  exact h

theorem Separate.keys_nodup {lists : List (List Park)} (h : Separate lists) :
    (lists.flatten.map Park.key).Nodup := by
  rw [List.map_flatten, List.nodup_flatten]
  refine ⟨fun keys hk ↦ ?_, ?_⟩
  · obtain ⟨l, hl, rfl⟩ := List.mem_map.mp hk
    exact key_nodup_of_ids (h.ids l hl)
  · rw [List.pairwise_map]
    refine h.apart.imp fun hab k hk hk' ↦ ?_
    obtain ⟨p, hp, rfl⟩ := List.mem_map.mp hk
    obtain ⟨q, hq, he⟩ := List.mem_map.mp hk'
    exact hab p hp q hq (congrArg Key.source he).symm

theorem eq_of_key_eq {parks : List Park} (h : (parks.map Park.key).Nodup) {p q : Park}
    (hp : p ∈ parks) (hq : q ∈ parks) (he : p.key = q.key) : p = q :=
  List.inj_on_of_nodup_map h hp hq he

variable (rule : ParkRule) (primary : List Park) (secondaries : List (List Park))

def primaryRow : List ParkMatch × List (List Park) :=
  crossRow rule primary secondaries

def secondaryPass : List ParkMatch × List (List Park) :=
  crossPairs rule secondaries.length (primaryRow rule primary secondaries).2

def unpaired : List Park :=
  (secondaryPass rule primary secondaries).2.flatten.filter fun p ↦
    !((secondaryPass rule primary secondaries).1.map (·.left.key)).contains p.key

theorem reconcile_eq : reconcile rule primary secondaries =
    let groups := primaryGroups primary (primaryRow rule primary secondaries).1
    { fullyMatched := groups.filter (!·.pairs.isEmpty)
      crossMatched := crossGroups (secondaryPass rule primary secondaries).1
      singleSource := (groups.filter (·.pairs.isEmpty)).map (·.anchor) ++
        unpaired rule primary secondaries } := by
  have hrow := crossRow_eq_primaryOutcomes rule primary secondaries
  simp only [reconcile, unpaired, secondaryPass, primaryRow, primaryGroups, crossGroups, hrow]
  simp only [primaryOutcomes, List.length_map]

theorem members_filter_perm (groups : List ParkGroup) :
    ((groups.filter (!·.pairs.isEmpty)).flatMap (·.members) ++
      (groups.filter (·.pairs.isEmpty)).map (·.anchor)).Perm (groups.flatMap (·.members)) := by
  induction groups with
  | nil => simp
  | cons g groups ih =>
    cases hg : g.pairs with
    | nil =>
      simp only [List.filter_cons, hg, List.isEmpty_nil, Bool.not_true, Bool.false_eq_true,
        if_false, if_true, List.map_cons, List.flatMap_cons, ParkGroup.members, List.map_nil]
      exact List.perm_middle.trans (ih.cons g.anchor)
    | cons pair pairs =>
      simp only [List.filter_cons, hg, List.isEmpty_cons, Bool.not_false, Bool.false_eq_true,
        if_false, if_true, List.flatMap_cons, List.append_assoc]
      exact ih.append_left g.members

theorem primaryRow_grouped :
    Grouped (·.externalId) (primaryGroups primary (primaryRow rule primary secondaries).1)
      (primaryRow rule primary secondaries).1 :=
  primaryGroups_grouped fun _ hp ↦ crossRow_left_mem hp

variable {rule primary secondaries}

theorem mem_primaryGroups {g : ParkGroup}
    (hg : g ∈ primaryGroups primary (primaryRow rule primary secondaries).1) :
    g.anchor ∈ primary ∧ ∀ pair ∈ g.pairs, pair ∈ (primaryRow rule primary secondaries).1 := by
  have hgrouped := primaryRow_grouped rule primary secondaries
  refine ⟨?_, (hgrouped.sublist g hg).subset⟩
  have ha := List.mem_map_of_mem (f := (·.anchor)) hg
  rwa [primaryGroups_anchors] at ha

/-- A group holds accepted pairs only, of parks that have its anchor's external id. -/
theorem reconcile_pair {g : ParkGroup} (hg : g ∈ (reconcile rule primary secondaries).groups)
    {pair : ParkMatch} (hp : pair ∈ g.pairs) :
    rule.Accepts pair ∧ pair.left.externalId = g.anchor.externalId := by
  rw [reconcile_eq] at hg
  rcases List.mem_append.mp hg with hg | hg
  · have hg := (List.mem_filter.mp hg).1
    have hgrouped := primaryRow_grouped rule primary secondaries
    exact ⟨crossRow_accepts ((mem_primaryGroups hg).2 pair hp), hgrouped.anchored g hg pair hp⟩
  · have hgrouped := crossGroups_grouped (secondaryPass rule primary secondaries).1
    exact ⟨crossPairs_accepts ((hgrouped.sublist g hg).subset hp),
      congrArg Key.externalId (hgrouped.anchored g hg pair hp)⟩

section Separate

variable (h : Separate (primary :: secondaries))
include h

theorem primaryGroups_anchored {g : ParkGroup}
    (hg : g ∈ primaryGroups primary (primaryRow rule primary secondaries).1) : g.Anchored := by
  intro pair hp
  obtain ⟨ha, hpairs⟩ := mem_primaryGroups hg
  have hgrouped := primaryRow_grouped rule primary secondaries
  exact List.inj_on_of_nodup_map (h.ids primary List.mem_cons_self)
    (crossRow_left_mem (hpairs pair hp)) ha (hgrouped.anchored g hg pair hp)

end Separate

theorem crossGroups_anchors_nodup (pairs : List ParkMatch) :
    ((crossGroups pairs).map (·.anchor)).Nodup := by
  refine List.Nodup.of_map Park.key ?_
  rw [List.map_map]
  exact crossGroups_keys_nodup pairs

theorem crossGroups_anchors_subset (rule : ParkRule) (primary : List Park)
    (secondaries : List (List Park)) :
    (crossGroups (secondaryPass rule primary secondaries).1).map (·.anchor) ⊆
      (secondaryPass rule primary secondaries).2.flatten.filter fun p ↦
        ((secondaryPass rule primary secondaries).1.map (·.left.key)).contains p.key := by
  have hgrouped := crossGroups_grouped (secondaryPass rule primary secondaries).1
  intro p hp
  obtain ⟨g, hg, rfl⟩ := List.mem_map.mp hp
  obtain ⟨first, rest, he, hl⟩ := crossGroups_opened _ g hg
  have hfirst := (hgrouped.sublist g hg).subset (he ▸ List.mem_cons_self : first ∈ g.pairs)
  rw [← hl, List.mem_filter, List.contains_iff_mem]
  exact ⟨crossPairs_left_mem hfirst, List.mem_map_of_mem hfirst⟩

theorem crossGroups_members_perm (pairs : List ParkMatch) :
    ((crossGroups pairs).flatMap (·.members)).Perm
      ((crossGroups pairs).map (·.anchor) ++ pairs.map (·.right)) :=
  (members_perm _).trans (((crossGroups_grouped pairs).perm.map (·.right)).append_left _)

/-- What the second pass leaves, and the parks that it pairs off, are all of those it was given. -/
theorem secondaryPass_perm (rule : ParkRule) (primary : List Park)
    (secondaries : List (List Park)) :
    (((secondaryPass rule primary secondaries).2.flatten.filter fun p ↦
        ((secondaryPass rule primary secondaries).1.map (·.left.key)).contains p.key) ++
      (secondaryPass rule primary secondaries).1.map (·.right) ++
      unpaired rule primary secondaries).Perm (primaryRow rule primary secondaries).2.flatten := by
  have hsplit := List.filter_append_perm (fun p : Park ↦
    ((secondaryPass rule primary secondaries).1.map (·.left.key)).contains p.key)
    (secondaryPass rule primary secondaries).2.flatten
  refine List.Perm.trans ?_ (crossPairs_right_perm rule secondaries.length _)
  refine List.Perm.trans ?_ (hsplit.append_left _)
  rw [List.append_assoc]
  exact List.perm_append_comm_assoc _ _ _

/-- The second pass doubles no park. It may lose one whose key is repeated. -/
theorem cross_occurrences_subperm (rule : ParkRule) (primary : List Park)
    (secondaries : List (List Park)) :
    ((crossGroups (secondaryPass rule primary secondaries).1).flatMap (·.members) ++
      unpaired rule primary secondaries).Subperm (primaryRow rule primary secondaries).2.flatten := by
  have hanchors := List.subperm_of_subset (crossGroups_anchors_nodup _)
    (crossGroups_anchors_subset rule primary secondaries)
  have hmembers := (crossGroups_members_perm (secondaryPass rule primary secondaries).1).subperm.trans
    ((List.subperm_append_right _).mpr hanchors)
  exact ((List.subperm_append_right _).mpr hmembers).trans
    (secondaryPass_perm rule primary secondaries).subperm

theorem crossGroups_members_mem {g : ParkGroup}
    (hg : g ∈ crossGroups (secondaryPass rule primary secondaries).1) {p : Park}
    (hp : p ∈ g.members) : ∃ l ∈ secondaries, p ∈ l := by
  have hleft : p ∈ (primaryRow rule primary secondaries).2.flatten :=
    (cross_occurrences_subperm rule primary secondaries).subset
      (List.mem_append_left _ (List.mem_flatMap.mpr ⟨g, hg, hp⟩))
  exact List.mem_flatten.mp ((crossRow_right_perm rule primary secondaries).subset
    (List.mem_append_right _ hleft))

section Distinct

variable (hk : ((primary :: secondaries).flatten.map Park.key).Nodup)
include hk

theorem leftovers_keys_nodup :
    ((primaryRow rule primary secondaries).2.flatten.map Park.key).Nodup := by
  rw [List.flatten_cons, List.map_append] at hk
  have hperm := (crossRow_right_perm rule primary secondaries).map Park.key
  rw [List.map_append] at hperm
  exact (List.nodup_append'.mp (hperm.nodup_iff.mpr (List.nodup_append'.mp hk).2.1)).2.1

theorem rest_keys_nodup :
    ((secondaryPass rule primary secondaries).2.flatten.map Park.key).Nodup := by
  have hperm := (crossPairs_right_perm rule secondaries.length
    (primaryRow rule primary secondaries).2).map Park.key
  rw [List.map_append] at hperm
  exact (List.nodup_append'.mp (hperm.nodup_iff.mpr (leftovers_keys_nodup hk))).2.1

theorem crossGroups_anchored {g : ParkGroup}
    (hg : g ∈ crossGroups (secondaryPass rule primary secondaries).1) : g.Anchored := by
  intro pair hp
  have hgrouped := crossGroups_grouped (secondaryPass rule primary secondaries).1
  obtain ⟨first, rest, he, hl⟩ := crossGroups_opened _ g hg
  have hfirst : first ∈ g.pairs := he ▸ List.mem_cons_self
  have hkey := hgrouped.anchored g hg pair hp
  rw [← hl] at hkey ⊢
  exact eq_of_key_eq (rest_keys_nodup hk)
    (crossPairs_left_mem ((hgrouped.sublist g hg).subset hp))
    (crossPairs_left_mem ((hgrouped.sublist g hg).subset hfirst)) hkey

theorem crossGroups_anchors_perm :
    ((crossGroups (secondaryPass rule primary secondaries).1).map (·.anchor)).Perm
      ((secondaryPass rule primary secondaries).2.flatten.filter fun p ↦
        ((secondaryPass rule primary secondaries).1.map (·.left.key)).contains p.key) := by
  have hrest : ((secondaryPass rule primary secondaries).2.flatten.map Park.key).Nodup :=
    rest_keys_nodup hk
  have hgrouped := crossGroups_grouped (secondaryPass rule primary secondaries).1
  rw [List.perm_ext_iff_of_nodup (crossGroups_anchors_nodup _) (hrest.of_map.filter _)]
  refine fun p ↦ ⟨fun hp ↦ crossGroups_anchors_subset rule primary secondaries hp, ?_⟩
  simp only [List.mem_map, List.mem_filter, List.contains_iff_mem]
  rintro ⟨hp, pair, hpair, he⟩
  obtain ⟨g, hg, hpg⟩ := hgrouped.exists_group hpair
  refine ⟨g, hg, ?_⟩
  rw [← crossGroups_anchored hk hg pair hpg]
  exact eq_of_key_eq hrest (crossPairs_left_mem hpair) hp he

theorem cross_occurrences_perm :
    ((crossGroups (secondaryPass rule primary secondaries).1).flatMap (·.members) ++
      unpaired rule primary secondaries).Perm (primaryRow rule primary secondaries).2.flatten := by
  have hmembers := (crossGroups_members_perm (secondaryPass rule primary secondaries).1).trans
    ((crossGroups_anchors_perm hk).append_right _)
  exact (hmembers.append_right _).trans (secondaryPass_perm rule primary secondaries)

end Distinct

theorem primary_occurrences_perm (rule : ParkRule) (primary : List Park)
    (secondaries : List (List Park)) :
    let groups := primaryGroups primary (primaryRow rule primary secondaries).1
    ((groups.filter (!·.pairs.isEmpty)).flatMap (·.members) ++
      (groups.filter (·.pairs.isEmpty)).map (·.anchor)).Perm
      (primary ++ (primaryRow rule primary secondaries).1.map (·.right)) := by
  intro groups
  have hpairs := (primaryRow_grouped rule primary secondaries).perm
  refine (members_filter_perm groups).trans ((members_perm groups).trans ?_)
  rw [primaryGroups_anchors]
  exact (hpairs.map (·.right)).append_left primary

theorem reconcile_occurrences (rule : ParkRule) (primary : List Park)
    (secondaries : List (List Park)) :
    (reconcile rule primary secondaries).occurrences.Perm
      (primary ++ (primaryRow rule primary secondaries).1.map (·.right) ++
        ((crossGroups (secondaryPass rule primary secondaries).1).flatMap (·.members) ++
          unpaired rule primary secondaries)) := by
  refine List.Perm.trans ?_ ((primary_occurrences_perm rule primary secondaries).append_right _)
  simp only [reconcile_eq, occurrences, groups, List.flatMap_append, List.append_assoc]
  exact (List.perm_append_comm_assoc _ _ _).append_left _

/-- Reconciling lists without repetitions loses no park and doubles none. -/
theorem reconcile_occurrences_perm (hk : ((primary :: secondaries).flatten.map Park.key).Nodup) :
    (reconcile rule primary secondaries).occurrences.Perm (primary ++ secondaries.flatten) := by
  refine (reconcile_occurrences rule primary secondaries).trans ?_
  rw [List.append_assoc]
  refine List.Perm.append_left primary ?_
  exact ((cross_occurrences_perm hk).append_left _).trans
    (crossRow_right_perm rule primary secondaries)

end ParkDiscovery

end ParkFusion
