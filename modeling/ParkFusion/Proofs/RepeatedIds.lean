import ParkFusion.Proofs.WellFormed

namespace ParkFusion

open Matching

namespace ParkDiscovery

/-- No external id of a source is in two groups or both in a group and single, and no group has two
parks of one source. -/
structure IsDisjoint (d : ParkDiscovery) : Prop where
  single : ∀ g ∈ d.groups, ∀ p ∈ g.members, ∀ q ∈ d.singleSource, p.key ≠ q.key
  groups : d.groups.Pairwise fun g g' ↦ ∀ p ∈ g.members, ∀ q ∈ g'.members, p.key ≠ q.key
  sources : ∀ g ∈ d.groups, (g.members.map (·.source)).Nodup

theorem isDisjoint_of_once {d : ParkDiscovery} (honce : (d.occurrences.map Park.key).Nodup)
    (hsources : ∀ g ∈ d.groups, (g.members.map (·.source)).Nodup) : d.IsDisjoint := by
  rw [occurrences, List.map_append, List.nodup_append'] at honce
  obtain ⟨hgroups, -, hsingle⟩ := honce
  refine ⟨fun g hg p hp q hq he ↦ ?_, ?_, hsources⟩
  · apply hsingle (List.mem_map_of_mem (List.mem_flatMap.mpr ⟨g, hg, hp⟩))
    exact he ▸ List.mem_map_of_mem hq
  · rw [List.map_flatMap, List.nodup_flatMap] at hgroups
    refine hgroups.2.imp fun hdisjoint p hp q hq he ↦ ?_
    apply hdisjoint (List.mem_map_of_mem hp)
    exact he ▸ List.mem_map_of_mem hq

variable {rule : ParkRule} {primary : List Park} {secondaries : List (List Park)} {g : ParkGroup}

/-- Reconciling doubles no park, whatever ids are repeated. -/
theorem reconcile_occurrences_subperm (rule : ParkRule) (primary : List Park)
    (secondaries : List (List Park)) :
    (reconcile rule primary secondaries).occurrences.Subperm (primary ++ secondaries.flatten) := by
  refine (reconcile_occurrences rule primary secondaries).subperm.trans ?_
  rw [List.append_assoc]
  apply (List.subperm_append_left primary).mpr
  refine List.Subperm.trans ?_ (crossRow_right_perm rule primary secondaries).subperm
  exact (List.subperm_append_left _).mpr (cross_occurrences_subperm rule primary secondaries)

/-- A park may get lost behind a group of its key, but not the key. -/
theorem reconcile_keeps_key {p : Park} (hp : p ∈ primary ++ secondaries.flatten) :
    p.key ∈ (reconcile rule primary secondaries).occurrences.map Park.key := by
  suffices hmem : ∃ q ∈ primary ++ (primaryRow rule primary secondaries).1.map (·.right) ++
      ((crossGroups (secondaryPass rule primary secondaries).1).flatMap (·.members) ++
        unpaired rule primary secondaries), q.key = p.key by
    obtain ⟨q, hq, he⟩ := hmem
    rw [← he]
    exact List.mem_map_of_mem ((reconcile_occurrences rule primary secondaries).symm.subset hq)
  have hrow := ((crossRow_right_perm rule primary secondaries).append_left primary).symm.subset hp
  rw [← List.append_assoc] at hrow
  rcases List.mem_append.mp hrow with hfirst | hleft
  · exact ⟨p, List.mem_append_left _ hfirst, rfl⟩
  have hgrouped := crossGroups_grouped (secondaryPass rule primary secondaries).1
  have hmembers := crossGroups_members_perm (secondaryPass rule primary secondaries).1
  have hsecond := (secondaryPass_perm rule primary secondaries).symm.subset hleft
  rcases List.mem_append.mp hsecond with hpaired | halone
  · rcases List.mem_append.mp hpaired with hanchor | hright
    · obtain ⟨pair, hpair, he⟩ :=
        List.mem_map.mp (List.contains_iff_mem.mp (List.mem_filter.mp hanchor).2)
      obtain ⟨g, hg, hpg⟩ := hgrouped.exists_group hpair
      refine ⟨g.anchor, ?_, (hgrouped.anchored g hg pair hpg).symm.trans he⟩
      exact List.mem_append_right _ (List.mem_append_left _
        (List.mem_flatMap.mpr ⟨g, hg, List.mem_cons_self⟩))
    · refine ⟨p, List.mem_append_right _ (List.mem_append_left _ ?_), rfl⟩
      exact hmembers.symm.subset (List.mem_append_right _ hright)
  · exact ⟨p, List.mem_append_right _ (List.mem_append_right _ halone), rfl⟩

theorem keys_subperm {l l' : List Park} (h : l.Subperm l') :
    (l.map Park.key).Subperm (l'.map Park.key) := by
  obtain ⟨m, hperm, hsub⟩ := h
  exact ⟨m.map Park.key, hperm.map Park.key, hsub.map Park.key⟩

/-- Where a key is listed once, the park is in one place. -/
theorem reconcile_once {key : Key}
    (h : ((primary ++ secondaries.flatten).map Park.key).count key = 1) :
    ((reconcile rule primary secondaries).occurrences.map Park.key).count key = 1 := by
  apply Nat.le_antisymm
  · rw [← h]
    exact (keys_subperm (reconcile_occurrences_subperm rule primary secondaries)).count_le key
  · obtain ⟨p, hp, rfl⟩ := List.mem_map.mp (List.count_pos_iff.mp (h.symm ▸ Nat.one_pos))
    exact List.count_pos_iff.mpr (reconcile_keeps_key hp)

section Apart

variable (h : (primary :: secondaries).Pairwise Apart)
include h

theorem reconcile_anchors_nodup :
    ((reconcile rule primary secondaries).groups.map (·.anchor.key)).Nodup := by
  rw [reconcile_eq, groups, List.map_append]
  refine List.Nodup.append ?_ (crossGroups_keys_nodup _) ?_
  · refine List.Nodup.of_map Key.externalId ?_
    rw [List.map_map]
    exact primaryGroups_ids_nodup primary _
  · intro key hfirst hsecond
    obtain ⟨g, hg, rfl⟩ := List.mem_map.mp hfirst
    obtain ⟨g', hg', he⟩ := List.mem_map.mp hsecond
    have ha := (mem_primaryGroups (List.mem_filter.mp hg).1).1
    obtain ⟨l, hl, hl'⟩ := crossGroups_members_mem hg' List.mem_cons_self
    exact (List.pairwise_cons.mp h).1 l hl g.anchor ha g'.anchor hl' (congrArg Key.source he).symm

/-- Two parks of one source can meet only in a group whose anchor has a repeated key. -/
theorem reconcile_sources_nodup (hsame : ∀ p ∈ primary, ∀ q ∈ primary, p.source = q.source)
    (hg : g ∈ (reconcile rule primary secondaries).groups)
    (honce : ((primary ++ secondaries.flatten).map Park.key).count g.anchor.key ≤ 1) :
    (g.members.map (·.source)).Nodup := by
  rw [List.map_append, List.count_append] at honce
  rw [reconcile_eq] at hg
  rcases List.mem_append.mp hg with hg | hg
  · have hg := (List.mem_filter.mp hg).1
    obtain ⟨ha, hpairs⟩ := mem_primaryGroups hg
    refine primaryGroups_sources_nodup h hg (fun pair hp ↦ ?_) (by omega)
    have hid := (primaryRow_grouped rule primary secondaries).anchored g hg pair hp
    have hsource := hsame pair.left (crossRow_left_mem (hpairs pair hp)) g.anchor ha
    rw [Park.key, Park.key, hid, hsource]
  · exact crossGroups_sources_nodup (List.pairwise_cons.mp h).2 hg (by omega)

end Apart

/-- Only the first park under an external id of the primary takes pairs. Any later one counts as
single, also where that id is matched. -/
theorem single_of_repeated {p q : Park} (hpq : [p, q].Sublist primary)
    (hid : p.externalId = q.externalId) {pair : ParkMatch}
    (hpair : pair ∈ (primaryRow rule primary secondaries).1)
    (hleft : pair.left.externalId = p.externalId) :
    q ∈ (reconcile rule primary secondaries).singleSource ∧
      ∃ g ∈ (reconcile rule primary secondaries).fullyMatched,
        g.anchor.externalId = q.externalId := by
  have hgrouped := primaryRow_grouped rule primary secondaries
  rw [reconcile_eq]
  constructor
  · rw [← primaryGroups_anchors primary (primaryRow rule primary secondaries).1] at hpq
    obtain ⟨both, hboth, hanchors⟩ := List.sublist_map_iff.mp hpq
    match both, hanchors with
    | [first, second], hanchors =>
      obtain ⟨rfl, rfl⟩ : p = first.anchor ∧ q = second.anchor := by simpa using hanchors
      have hlater := (primaryGroups_pairwise primary
        (primaryRow rule primary secondaries).1).sublist hboth
      have hnone : second.pairs = [] := (List.pairwise_pair.mp hlater) hid
      apply List.mem_append_left
      apply List.mem_map_of_mem
      exact List.mem_filter.mpr ⟨hboth.subset (by simp), by simp [hnone]⟩
  · obtain ⟨g, hg, hp⟩ := hgrouped.exists_group hpair
    refine ⟨g, List.mem_filter.mpr ⟨hg, ?_⟩, ?_⟩
    · simpa using List.ne_nil_of_mem hp
    · exact (hgrouped.anchored g hg pair hp).symm.trans (hleft.trans hid)

/-- What discovery keeps when the fetched lists repeat external ids. -/
structure BoundsRepeats (fetched : List Park) (d : ParkDiscovery) : Prop where
  subperm : d.occurrences.Subperm fetched
  keys : ∀ p ∈ fetched, p.key ∈ d.occurrences.map Park.key
  once : ∀ key, (fetched.map Park.key).count key = 1 →
    (d.occurrences.map Park.key).count key = 1
  anchors : (d.groups.map (·.anchor.key)).Nodup
  sources : ∀ g ∈ d.groups, (fetched.map Park.key).count g.anchor.key = 1 →
    (g.members.map (·.source)).Nodup

theorem BoundsRepeats.isDisjoint {fetched : List Park} {d : ParkDiscovery}
    (h : d.BoundsRepeats fetched) (honce : (fetched.map Park.key).Nodup) : d.IsDisjoint := by
  have hsub := keys_subperm h.subperm
  refine isDisjoint_of_once (List.nodup_iff_count_le_one.mpr fun key ↦ ?_) fun g hg ↦ ?_
  · exact Nat.le_trans (hsub.count_le key) (List.nodup_iff_count_le_one.mp honce key)
  · apply h.sources g hg
    have hg : g.anchor.key ∈ d.occurrences.map Park.key := List.mem_map_of_mem
      (List.mem_append_left _ (List.mem_flatMap.mpr ⟨g, hg, List.mem_cons_self⟩))
    exact List.count_eq_one_of_mem honce (hsub.subset hg)

theorem ofReplies_boundsRepeats (rule : ParkRule)
    {replies : List (String × Except Failure (List Park))} (hd : (replies.map (·.1)).Nodup)
    (hs : ∀ r ∈ replies, ∀ p ∈ parksOf r, p.source = r.1) :
    (ofReplies rule replies).BoundsRepeats (replies.flatMap parksOf) := by
  cases replies with
  | nil => constructor <;> simp [ofReplies, occurrences, groups]
  | cons reply replies =>
    have hapart := apart_of_sources hd hs
    have hsame : ∀ p ∈ parksOf reply, ∀ q ∈ parksOf reply, p.source = q.source := by
      intro p hp q hq
      have hreply := hs reply List.mem_cons_self
      rw [hreply p hp, hreply q hq]
    rw [List.flatMap_cons, List.flatMap_def, ofReplies_cons]
    exact ⟨reconcile_occurrences_subperm rule _ _, fun _ ↦ reconcile_keeps_key,
      fun _ ↦ reconcile_once, reconcile_anchors_nodup hapart,
      fun _ hg honce ↦ reconcile_sources_nodup hapart hsame hg (Nat.le_of_eq honce)⟩

end ParkDiscovery

namespace Hub

open ParkDiscovery

variable {σ : Type} [Network (StateM σ)]

/-- Whatever external ids the sources repeat: discovery doubles no park and loses no id, anchors no
two groups on one id, and puts an id that is listed once in one place. The groups and the single
parks are disjoint if no id is repeated. -/
theorem discoverParks_boundsRepeats (settings : Settings) (adapters : List (Adapter (StateM σ)))
    (sink : JobSink) (s : σ)
    (hs : ∀ reply ∈ ((ofAdapters settings adapters).parkReplies.run s).1,
      ∀ p ∈ parksOf reply, p.source = reply.1) :
    let fetched := ((ofAdapters settings adapters).parkReplies.run s).1.flatMap parksOf
    let found := (((ofAdapters settings adapters).discoverParks sink).run s).1.1
    found.BoundsRepeats fetched ∧ ((fetched.map Park.key).Nodup → found.IsDisjoint) := by
  intro fetched found
  have hd : (((ofAdapters settings adapters).parkReplies.run s).1.map (·.1)).Nodup := by
    rw [parkReplies_ids]
    exact ranking_nodup (ofAdapters_ids_nodup settings adapters)
  have hbounds : found.BoundsRepeats fetched :=
    ofReplies_boundsRepeats (ofAdapters settings adapters).parkRule hd hs
  exact ⟨hbounds, hbounds.isDisjoint⟩

/-- Two sources, with the external ids and the names of the parks that they list. -/
def twoSources (primary secondary : List (String × String)) : List (Adapter (StateM World)) := [
  .fixed "themeparks-wiki" (.ok (primary.map fun (id, name) ↦
    { externalId := id, source := "themeparks-wiki", name := name })),
  .fixed "queue-times" (.ok (secondary.map fun (id, name) ↦
    { externalId := id, source := "queue-times", name := name }))]

def foundBy (adapters : List (Adapter (StateM World))) : ParkDiscovery :=
  (((ofAdapters {} adapters).discoverParks .absent).run {}).1.1

/-- Where the primary repeats an id, it is both in a group and single. Where another source does, it
is in two groups. Where two parks under one id of the primary are matched, a group has two parks of
one source. -/
theorem repeatedIds_overlap :
    let ofPrimary := foundBy (twoSources [("w1", "Phantasialand"), ("w1", "Efteling")]
      [("56", "Phantasialand")])
    let ofOther := foundBy (twoSources [("w1", "Phantasialand"), ("w2", "Efteling")]
      [("56", "Phantasialand"), ("56", "Efteling")])
    let ofMatched := foundBy (twoSources [("w1", "Phantasialand"), ("w1", "Efteling")]
      [("56", "Phantasialand"), ("12", "Efteling")])
    (∃ g ∈ ofPrimary.groups, ∃ p ∈ g.members, ∃ q ∈ ofPrimary.singleSource, p.key = q.key) ∧
      (∃ g ∈ ofOther.groups, ∃ g' ∈ ofOther.groups, g ≠ g' ∧
        ∃ p ∈ g.members, ∃ q ∈ g'.members, p.key = q.key) ∧
      ∃ g ∈ ofMatched.groups, ¬ (g.members.map (·.source)).Nodup := by
  simp only [foundBy, discoverParks_found, parkReplies]
  refine ⟨?_, ?_, ?_⟩
  all_goals
    rw [ranked_eq_adapters (by decide)]
    decide +kernel

end Hub

end ParkFusion
