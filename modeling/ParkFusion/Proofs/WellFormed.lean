import ParkFusion.Proofs.EntityProposals
import ParkFusion.Proofs.Partition

namespace ParkFusion

open Matching

namespace ParkDiscovery

variable {rule : ParkRule} {primary : List Park} {secondaries : List (List Park)}
variable {replies : List (String × Except Failure (List Park))} {g : ParkGroup}

theorem reconcile_pairs_ne_nil (hg : g ∈ (reconcile rule primary secondaries).groups) :
    g.pairs ≠ [] := by
  rw [reconcile_eq] at hg
  rcases List.mem_append.mp hg with hg | hg
  · simpa using (List.mem_filter.mp hg).2
  · obtain ⟨first, rest, he, -⟩ := crossGroups_opened _ g hg
    simp [he]

theorem primaryGroups_ids_nodup (primary : List Park) (pairs : List ParkMatch) :
    (((primaryGroups primary pairs).filter (!·.pairs.isEmpty)).map (·.anchor.externalId)).Nodup := by
  have hfiltered := (primaryGroups_pairwise primary pairs).filter (!·.pairs.isEmpty)
  refine List.pairwise_map.mpr (hfiltered.imp_of_mem fun _ hg' h he ↦ ?_)
  have hne := (List.mem_filter.mp hg').2
  rw [h he] at hne
  cases hne

section Distinct

variable (hk : ((primary :: secondaries).flatten.map Park.key).Nodup)
include hk

theorem primary_key_ne {p q : Park} (hp : p ∈ primary) (hq : ∃ l ∈ secondaries, q ∈ l) :
    p.key ≠ q.key := by
  rw [List.flatten_cons, List.map_append] at hk
  intro he
  exact (List.nodup_append'.mp hk).2.2 (List.mem_map_of_mem hp)
    (he ▸ List.mem_map_of_mem (List.mem_flatten.mpr hq))

/-- A primary park that pairs off to a group of another park is of no group. -/
theorem primary_left_own
    (hg : g ∈ (primaryGroups primary (primaryRow rule primary secondaries).1).filter
      (!·.pairs.isEmpty)) {pair : ParkMatch} (hp : pair ∈ g.pairs) {g' : ParkGroup}
    (hg' : g' ∈ (reconcile rule primary secondaries).groups)
    (hmem : pair.left.key ∈ g'.members.map Park.key) :
    pair.left.key ∈ g.members.map Park.key := by
  have hprimary := (mem_primaryGroups (List.mem_filter.mp hg).1).2 pair hp
  have hleft : pair.left ∈ primary := crossRow_left_mem hprimary
  obtain ⟨p, hpm, he⟩ := List.mem_map.mp hmem
  rw [reconcile_eq] at hg'
  rcases List.mem_append.mp hg' with hg' | hg'
  · obtain ⟨ha, hrow⟩ := mem_primaryGroups (List.mem_filter.mp hg').1
    rcases List.mem_cons.mp hpm with rfl | hpm
    · rw [List.flatten_cons, List.map_append] at hk
      have hanchor := eq_of_key_eq (List.nodup_append'.mp hk).1 ha hleft he
      have hid := (primaryRow_grouped rule primary secondaries).anchored g
        (List.mem_filter.mp hg).1 pair hp
      rw [← hanchor] at hid
      have hsame : g' = g := List.inj_on_of_nodup_map (primaryGroups_ids_nodup _ _) hg' hg hid
      rw [← hsame, ← he]
      exact List.mem_cons_self
    · obtain ⟨other, ho, rfl⟩ := List.mem_map.mp hpm
      exact absurd he.symm (primary_key_ne hk hleft (crossRow_right_mem (hrow other ho)))
  · exact absurd he.symm (primary_key_ne hk hleft (crossGroups_members_mem hg' hpm))

theorem reconcile_tidy : (reconcile rule primary secondaries).Tidy where
  pairs_ne_nil _ hg := reconcile_pairs_ne_nil hg
  keys_nodup := ((reconcile_occurrences_perm hk).map Park.key).nodup_iff.mpr hk
  left_own g hg pair hp := by
    by_cases hown : pair.left.key ∈ g.members.map Park.key
    · exact Or.inl hown
    · rw [reconcile_eq] at hg
      rcases List.mem_append.mp hg with hg | hg
      · exact Or.inr fun g' hg' hmem ↦ hown (primary_left_own hk hg hp hg' hmem)
      · rw [crossGroups_anchored hk hg pair hp] at hown
        exact absurd List.mem_cons_self hown

end Distinct

theorem ofReplies_tidy (rule : ParkRule) (hk : ((replies.flatMap parksOf).map Park.key).Nodup) :
    (ofReplies rule replies).Tidy := by
  cases replies with
  | nil => constructor <;> simp [ofReplies, groups, occurrences]
  | cons reply replies =>
    rw [List.flatMap_cons, List.flatMap_def] at hk
    have h : (reconcile rule (parksOf reply) (replies.map parksOf)).Tidy := reconcile_tidy hk
    exact ⟨h.pairs_ne_nil, h.keys_nodup, h.left_own⟩

theorem ofReplies_wellFormed (rule : ParkRule) (hd : (replies.map (·.1)).Nodup)
    (hh : ∀ r ∈ replies, Honest r) : (ofReplies rule replies).WellFormed := by
  have honce := (ofReplies_isPartition rule hd hh).once
  cases replies with
  | nil => exact ⟨by simp [ofReplies, groups], by simp [ofReplies, groups], honce⟩
  | cons reply replies =>
    have h := separate_of_honest hd hh
    rw [List.map_cons] at h
    refine ⟨fun g hg ↦ reconcile_pairs_ne_nil hg, fun g hg ↦ ?_, honce⟩
    rw [ofReplies_cons, reconcile_eq] at hg
    rcases List.mem_append.mp hg with hg | hg
    · exact primaryGroups_anchored h (List.mem_filter.mp hg).1
    · exact crossGroups_anchored h.keys_nodup hg

end ParkDiscovery

namespace EntityDiscovery

variable {lists : List (String × List Entity)} {anchorEntities : List Entity}

/-- The list of a source has entities of the source itself, no two of them under one external
id. -/
def HonestList (entry : String × List Entity) : Prop :=
  (entry.2.map (·.externalId)).Nodup ∧ ∀ e ∈ entry.2, e.source = entry.1

theorem HonestList.keys_nodup {entry : String × List Entity} (h : HonestList entry) :
    (entry.2.map Entity.key).Nodup := by
  refine List.Nodup.of_map Key.externalId ?_
  rw [List.map_map]
  exact h.1

theorem keys_nodup_of_honest (hd : (lists.map (·.1)).Nodup) (hh : ∀ entry ∈ lists, HonestList entry) :
    ((lists.flatMap (·.2)).map Entity.key).Nodup := by
  rw [List.map_flatMap, List.nodup_flatMap]
  refine ⟨fun entry he ↦ (hh entry he).keys_nodup, ?_⟩
  refine (List.pairwise_map.mp hd).imp_of_mem fun he he' hne k hk hk' ↦ hne ?_
  obtain ⟨a, ha, rfl⟩ := List.mem_map.mp hk
  obtain ⟨b, hb, hkey⟩ := List.mem_map.mp hk'
  rw [← (hh _ he).2 a ha, ← (hh _ he').2 b hb]
  exact congrArg Key.source hkey.symm

section OfReplies

variable {replies : List (String × Except Failure (List Entity))} (rule : EntityRule)

/-- The list of the anchor, and how every further list matches it. -/
theorem ofReplies_of_lists {first : String × List Entity} {others : List (String × List Entity)}
    (h : EntityDiscovery.lists replies = first :: others) :
    (ofReplies rule replies).anchor = some first.1 ∧
      (ofReplies rule replies).anchorEntities = first.2 ∧
      (ofReplies rule replies).outcomes.Perm
        (others.map fun entry ↦ (entry.1, rule.pairOff first.2 entry.2)) := by
  rw [ofReplies, h]
  exact ⟨rfl, rfl, Entries.sort_perm _⟩

theorem ofReplies_wellFormed_of_keys
    (hkeys : (((EntityDiscovery.lists replies).flatMap (·.2)).map Entity.key).Nodup)
    (hids : ((ofReplies rule replies).anchorEntities.map (·.externalId)).Nodup) :
    (ofReplies rule replies).WellFormed := by
  cases hlists : EntityDiscovery.lists replies with
  | nil =>
    rw [ofReplies, hlists]
    constructor <;> simp [pairs, unmatched]
  | cons first others =>
    obtain ⟨-, hanchor, houtcomes⟩ := ofReplies_of_lists rule hlists
    rw [hlists] at hkeys
    refine ⟨fun pair hp ↦ ?_, hids, ?_⟩
    · obtain ⟨outcome, ho, hp⟩ := List.mem_flatMap.mp hp
      obtain ⟨entry, -, rfl⟩ := List.mem_map.mp (houtcomes.subset ho)
      rw [hanchor]
      exact (rule.matched_left_sublist first.2 entry.2).subset (List.mem_map_of_mem hp)
    · have hperm := rule.rights_perm first.2 (·.2) others
      have hpairs := (houtcomes.flatMap_right (·.2.matched)).map (·.right)
      have hunmatched := houtcomes.flatMap_right (·.2.rightOnly)
      simp only [List.flatMap_map] at hpairs hunmatched
      have hall := ((hpairs.append hunmatched).trans hperm).append_left first.2
      rw [hanchor]
      exact ((hall.map Entity.key).nodup_iff).mpr hkeys

theorem ofReplies_wellFormed (hd : ((EntityDiscovery.lists replies).map (·.1)).Nodup)
    (hh : ∀ entry ∈ EntityDiscovery.lists replies, HonestList entry) :
    (ofReplies rule replies).WellFormed := by
  refine ofReplies_wellFormed_of_keys rule (keys_nodup_of_honest hd hh) ?_
  unfold ofReplies
  cases hlists : EntityDiscovery.lists replies with
  | nil => exact List.nodup_nil
  | cons first others => exact (hh first (hlists ▸ List.mem_cons_self)).1

end OfReplies

end EntityDiscovery

namespace Hub

variable {σ : Type}

def entityReplies (hub : Hub (StateM σ)) (ids : List (String × String)) :
    StateM σ (List (String × Except Failure (List Entity))) :=
  (knowing ids hub.ranked).mapM fun (a, park) ↦ return (a.id, ← a.entities park)

theorem discoverEntities_found (hub : Hub (StateM σ)) (ids : List (String × String)) (s : σ) :
    ((hub.discoverEntities ids).run s).1 =
      .ofReplies hub.entityRule ((hub.entityReplies ids).run s).1 := rfl

theorem knowing_ids_sublist (ids : List (String × String)) (adapters : List (Adapter (StateM σ))) :
    ((knowing ids adapters).map (·.1.id)).Sublist (adapters.map (·.id)) := by
  induction adapters with
  | nil => exact .slnil
  | cons a adapters ih =>
    cases hl : ids.lookup a.id with
    | none => simpa [knowing, hl] using ih.cons a.id
    | some park => simpa [knowing, hl] using ih.cons_cons a.id

theorem lists_ids_sublist (replies : List (String × Except Failure (List Entity))) :
    ((EntityDiscovery.lists replies).map (·.1)).Sublist (replies.map (·.1)) := by
  induction replies with
  | nil => exact .slnil
  | cons reply replies ih =>
    obtain ⟨id, reply⟩ := reply
    cases reply with
    | error e => simpa [EntityDiscovery.lists, Except.toOption] using ih.cons id
    | ok entities => simpa [EntityDiscovery.lists, Except.toOption] using ih.cons_cons id

/-- The lists come by rank. -/
theorem lists_ids_ranked (hub : Hub (StateM σ)) (ids : List (String × String)) (s : σ) :
    ((EntityDiscovery.lists ((hub.entityReplies ids).run s).1).map (·.1)).Sublist hub.ranking := by
  have hids : ((hub.entityReplies ids).run s).1.map (·.1) =
      (knowing ids hub.ranked).map (·.1.id) :=
    run_mapM_map (fun _ _ _ ↦ rfl) s
  refine (lists_ids_sublist _).trans ?_
  rw [hids]
  exact knowing_ids_sublist ids hub.ranked

theorem discoverParks_wellFormed [Network (StateM σ)] (settings : Settings)
    (adapters : List (Adapter (StateM σ))) (sink : JobSink) (s : σ)
    (hh : ∀ reply ∈ ((ofAdapters settings adapters).parkReplies.run s).1, Honest reply) :
    (((ofAdapters settings adapters).discoverParks sink).run s).1.1.WellFormed := by
  rw [discoverParks_found]
  refine ParkDiscovery.ofReplies_wellFormed _ ?_ hh
  rw [parkReplies_ids]
  exact ranking_nodup (ofAdapters_ids_nodup settings adapters)

theorem discoverEntities_wellFormed (settings : Settings) (adapters : List (Adapter (StateM σ)))
    (ids : List (String × String)) (s : σ)
    (hh : ∀ entry ∈ EntityDiscovery.lists
      (((ofAdapters settings adapters).entityReplies ids).run s).1,
        EntityDiscovery.HonestList entry) :
    (((ofAdapters settings adapters).discoverEntities ids).run s).1.WellFormed := by
  rw [discoverEntities_found]
  refine EntityDiscovery.ofReplies_wellFormed _ ?_ hh
  exact (lists_ids_ranked _ ids s).nodup
    (ranking_nodup (ofAdapters_ids_nodup settings adapters))

end Hub

end ParkFusion
