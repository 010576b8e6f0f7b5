import Mathlib.Logic.Relation
import ParkFusion.Proofs.IdOrigins
import ParkFusion.Proofs.SharedIds

namespace ParkFusion

open Mapping Matching
open Mapping.Store (Sound)

variable {k k' : Key} {id : Uuid} {m : Mapping}

/-- The keys of the anchor and of both parks of every pair. -/
def ParkGroup.keys (g : ParkGroup) : List Key :=
  g.anchor.key :: g.pairs.flatMap fun pair ↦ [pair.left.key, pair.right.key]

theorem ParkGroup.key_mem_keys {g : ParkGroup} {pair : ParkMatch} (hp : pair ∈ g.pairs)
    (hk : k = pair.left.key ∨ k = pair.right.key) : k ∈ g.keys := by
  refine List.mem_cons_of_mem _ (List.mem_flatMap.mpr ⟨pair, hp, ?_⟩)
  simpa using hk

namespace ParkDiscovery

variable {bundle : Bundle} {d : ParkDiscovery}

def families (d : ParkDiscovery) : List (List Key) :=
  d.groups.map ParkGroup.keys

def Bundle.portion (bundle : Bundle) : Portion where
  consulted := bundle.keys
  keys := {k | k ∈ bundle.keys ∨ ∃ id, ∃ m ∈ bundle.mappings id, m.key = k}
  consulted_mem _ hk := Or.inl hk

theorem bundle_mapping_id (hb : bundle ∈ d.bundles) (hm : m ∈ bundle.mappings id) : m.id = id := by
  rcases List.mem_append.mp hb with hb | hb
  · obtain ⟨g, -, rfl⟩ := List.mem_map.mp hb
    obtain ⟨pair, -, hm⟩ := List.mem_flatMap.mp hm
    exact (mem_ofMatch Subject.ofPark_key hm).1
  · obtain ⟨p, -, rfl⟩ := List.mem_map.mp hb
    rw [List.mem_singleton.mp hm]
    rfl

theorem group_portion_keys {g : ParkGroup} (hk : k ∈ (ofGroup g).portion.keys) : k ∈ g.keys := by
  rcases hk with hk | ⟨id, m, hm, rfl⟩
  · obtain ⟨p, hp, rfl⟩ := List.mem_map.mp hk
    rcases List.mem_cons.mp hp with rfl | hp
    · exact List.mem_cons_self
    · obtain ⟨pair, hpair, rfl⟩ := List.mem_map.mp hp
      exact g.key_mem_keys hpair (Or.inr rfl)
  · obtain ⟨pair, hpair, hm⟩ := List.mem_flatMap.mp hm
    exact g.key_mem_keys hpair (mem_ofMatch Subject.ofPark_key hm).2.1

theorem single_portion_keys {p : Park} (hk : k ∈ (ofSingle p).portion.keys) : k = p.key := by
  rcases hk with hk | ⟨id, m, hm, rfl⟩
  · exact List.mem_singleton.mp hk
  · rw [List.mem_singleton.mp hm]
    rfl

theorem bundle_together (hb : bundle ∈ d.bundles) (hk : k ∈ bundle.portion.keys)
    (hk' : k' ∈ bundle.portion.keys) : Key.Together d.families k k' := by
  rcases List.mem_append.mp hb with hb | hb
  · obtain ⟨g, hg, rfl⟩ := List.mem_map.mp hb
    exact Or.inr ⟨g.keys, List.mem_map_of_mem hg, group_portion_keys hk, group_portion_keys hk'⟩
  · obtain ⟨p, -, rfl⟩ := List.mem_map.mp hb
    exact Or.inl ((single_portion_keys hk).trans (single_portion_keys hk').symm)

theorem proposals_apportioned (d : ParkDiscovery) (store : Store) (supply : IdSupply) :
    Apportioned store.idOf? supply (d.bundles.map Bundle.portion) (d.proposals store supply) := by
  intro m hm
  obtain ⟨list, hlist, hm⟩ := List.mem_flatten.mp hm
  rw [assign_fst] at hlist
  obtain ⟨x, hx, rfl⟩ := List.mem_map.mp hlist
  have hportions := stages_map (f := Portion.pick store.idOf?) (g := Bundle.portion)
    (h := proposeBundle store) (fun _ _ ↦ rfl) supply d.bundles
  rw [hportions]
  exact ⟨_, List.mem_map_of_mem hx, Or.inr ⟨_, m, hm, rfl⟩,
    bundle_mapping_id (fst_mem_of_mem_stages hx) hm⟩

end ParkDiscovery

namespace EntityDiscovery

variable {known : Key → Option Uuid} {park : Uuid} {d : EntityDiscovery} {supply : IdSupply}
variable {e : Entity} {ids : List (String × Uuid)}

/-- The keys of an anchor entity, of all that are matched to it, and of whatever else goes by its
external id among the anchor's entities. -/
def kin (d : EntityDiscovery) (e : Entity) : List Key :=
  d.familyKeys e ++ ((d.anchorEntities.filter (·.externalId = e.externalId)).map Entity.key ++
    (d.partners e).map (Entity.key ·.left))

def families (d : EntityDiscovery) : List (List Key) :=
  d.anchorEntities.map d.kin

def anchorPortion (d : EntityDiscovery) (e : Entity) : Portion where
  consulted := d.familyKeys e
  keys := {k | k ∈ d.kin e}
  consulted_mem _ hk := List.mem_append_left _ hk

def singlePortion (e : Entity) : Portion where
  consulted := [e.key]
  keys := {e.key}
  consulted_mem _ hk := List.mem_singleton.mp hk

def portions (d : EntityDiscovery) : List Portion :=
  d.anchorEntities.map d.anchorPortion ++ d.unmatched.map singlePortion

theorem portion_together {p : Portion} (hp : p ∈ d.portions) (hk : k ∈ p.keys) (hk' : k' ∈ p.keys) :
    Key.Together d.families k k' := by
  rcases List.mem_append.mp hp with hp | hp
  · obtain ⟨e, he, rfl⟩ := List.mem_map.mp hp
    exact Or.inr ⟨d.kin e, List.mem_map_of_mem he, hk, hk'⟩
  · obtain ⟨e, -, rfl⟩ := List.mem_map.mp hp
    exact Or.inl (hk.trans hk'.symm)

theorem anchorId_snd (known : Key → Option Uuid) (d : EntityDiscovery) (supply : IdSupply)
    (e : Entity) : (d.anchorId known supply e).2 = ((d.anchorPortion e).pick known supply).2 := by
  rw [anchorId, known_or_partnerId]
  rfl

theorem single_eq (known : Key → Option Uuid) (park : Uuid) (supply : IdSupply) (e : Entity) :
    single known park supply e =
      (Mapping.single ((singlePortion e).pick known supply).1 (.ofEntity park e),
        ((singlePortion e).pick known supply).2) := by
  have hconsulted : (singlePortion e).consulted.findSome? known = known e.key := by
    simp [singlePortion, List.findSome?_cons]
    cases known e.key <;> rfl
  rw [Portion.pick, hconsulted]
  rfl

theorem exists_of_lookup_anchorIds {externalId : String}
    (h : (anchorIds known d supply).lookup externalId = some id) :
    ∃ x ∈ stages (d.anchorId known) supply d.anchorEntities,
      x.1.externalId = externalId ∧ id = ((d.anchorPortion x.1).pick known x.2).1 := by
  have hm : (externalId, id) ∈ anchorIds known d supply := Entries.mem_of_lookup h
  have hassigned := Entries.keepLast_subset _ hm
  rw [assign_fst] at hassigned
  obtain ⟨x, hx, he⟩ := List.mem_map.mp hassigned
  refine ⟨x, hx, congrArg Prod.fst he, (congrArg Prod.snd he).symm.trans ?_⟩
  rw [anchorId, known_or_partnerId]
  rfl

/-- Through all sources, what is in no pair draws its ids one after the other. -/
theorem mem_assign_proposeOutcome (outcomes : List (Outcome Entity Float))
    (hm : m ∈ (assign (proposeOutcome known ids park) supply outcomes).1.flatten) :
    (∃ pair ∈ outcomes.flatMap (·.matched), ∃ id, ids.lookup pair.left.externalId = some id ∧
      m ∈ ofMatch id (Subject.ofEntity park) pair) ∨
    m ∈ (assign (single known park) supply (outcomes.flatMap (·.rightOnly))).1 := by
  induction outcomes generalizing supply with
  | nil => cases hm
  | cons outcome outcomes ih =>
    rw [List.flatMap_cons, List.flatMap_cons, assign_append]
    rcases List.mem_append.mp hm with hm | hm
    · rcases mem_proposeOutcome.mp hm with ⟨pair, hp, hm⟩ | hm
      · exact Or.inl ⟨pair, List.mem_append_left _ hp, hm⟩
      · exact Or.inr (List.mem_append_left _ hm)
    · rcases ih hm with ⟨pair, hp, hm⟩ | hm
      · exact Or.inl ⟨pair, List.mem_append_right _ hp, hm⟩
      · exact Or.inr (List.mem_append_right _ hm)

theorem assign_proposeOutcome_snd (known : Key → Option Uuid) (ids : List (String × Uuid))
    (park : Uuid) (supply : IdSupply) (outcomes : List (Outcome Entity Float)) :
    (assign (proposeOutcome known ids park) supply outcomes).2 =
      (assign (single known park) supply (outcomes.flatMap (·.rightOnly))).2 := by
  induction outcomes generalizing supply with
  | nil => rfl
  | cons outcome outcomes ih =>
    rw [List.flatMap_cons, assign_append]
    exact ih _

theorem stages_portions (known : Key → Option Uuid) (d : EntityDiscovery) (park : Uuid)
    (supply : IdSupply) :
    stages (Portion.pick known) supply d.portions =
      ((stages (d.anchorId known) supply d.anchorEntities).map fun x ↦ (d.anchorPortion x.1, x.2)) ++
      (stages (single known park) (assign (d.anchorId known) supply d.anchorEntities).2
        d.unmatched).map fun x ↦ (singlePortion x.1, x.2) := by
  have hanchor := anchorId_snd known d
  have hsingle : ∀ s e, (single known park s e).2 = ((singlePortion e).pick known s).2 :=
    fun s e ↦ congrArg Prod.snd (single_eq known park s e)
  rw [portions, stages_append, stages_map hanchor, assign_map_snd hanchor, stages_map hsingle]

/-- The anchor's entities draw their ids first, then the entities that are in no pair. -/
theorem propose_supply (known : Key → Option Uuid) (d : EntityDiscovery) (park : Uuid)
    (supply : IdSupply) :
    (d.propose known park supply).2 = (assign (single known park)
      (assign (d.anchorId known) supply d.anchorEntities).2 d.unmatched).2 := by
  refine (assign_proposeOutcome_snd known _ park _ _).trans ?_
  rw [unmatched, List.flatMap_map]

theorem propose_snd (known : Key → Option Uuid) (d : EntityDiscovery) (park : Uuid)
    (supply : IdSupply) :
    (d.propose known park supply).2 = (assign (Portion.pick known) supply d.portions).2 := by
  have hsingle : ∀ s e, (single known park s e).2 = ((singlePortion e).pick known s).2 :=
    fun s e ↦ congrArg Prod.snd (single_eq known park s e)
  rw [portions, assign_append, assign_map_snd (anchorId_snd known d), assign_map_snd hsingle]
  exact propose_supply known d park supply

theorem propose_apportioned (known : Key → Option Uuid) (d : EntityDiscovery) (park : Uuid)
    (supply : IdSupply) :
    Apportioned known supply d.portions (d.propose known park supply).1 := by
  intro m hm
  rw [stages_portions known d park]
  -- a mapping under an id of the anchor, for a key that goes by the external id of this id
  have hanchor : ∀ externalId id, (anchorIds known d supply).lookup externalId = some id →
      m.id = id → (∀ x ∈ d.anchorEntities, x.externalId = externalId → m.key ∈ d.kin x) →
      ∃ x ∈ ((stages (d.anchorId known) supply d.anchorEntities).map fun x ↦
          (d.anchorPortion x.1, x.2)) ++
        (stages (single known park) (assign (d.anchorId known) supply d.anchorEntities).2
          d.unmatched).map fun x ↦ (singlePortion x.1, x.2),
        m.key ∈ x.1.keys ∧ m.id = (x.1.pick known x.2).1 := by
    intro externalId id hid hm hkin
    obtain ⟨x, hx, he, hpick⟩ := exists_of_lookup_anchorIds hid
    exact ⟨_, List.mem_append_left _ (List.mem_map_of_mem hx),
      hkin x.1 (fst_mem_of_mem_stages hx) he, hm.trans hpick⟩
  rcases List.mem_append.mp hm with hm | hm
  · rcases mem_assign_proposeOutcome _ hm with ⟨pair, hp, id, hid, hm⟩ | hm
    · obtain ⟨hmid, hmk, -⟩ := mem_ofMatch (Subject.ofEntity_key park) hm
      rw [List.flatMap_map] at hp
      refine hanchor _ id hid hmid fun e he hx ↦ ?_
      have hpartner : pair ∈ d.partners e := mem_partners.mpr ⟨hp, hx.symm⟩
      rcases hmk with hmk | hmk
      · rw [hmk]
        exact List.mem_append_right _ (List.mem_append_right _ (List.mem_map_of_mem hpartner))
      · rw [hmk]
        exact List.mem_append_left _ (List.mem_cons_of_mem _ (List.mem_map_of_mem hpartner))
    · rw [List.flatMap_map, assign_fst] at hm
      obtain ⟨x, hx, rfl⟩ := List.mem_map.mp hm
      refine ⟨_, List.mem_append_right _ (List.mem_map_of_mem hx), ?_, ?_⟩
      · rw [single_eq]
        rfl
      · rw [single_eq]
        rfl
  · obtain ⟨e, he, -, id, hid, rfl⟩ := mem_proposeUnpaired.mp hm
    refine hanchor _ id hid rfl fun x hx hxe ↦ ?_
    refine List.mem_append_right _ (List.mem_append_left _ (List.mem_map_of_mem ?_))
    exact List.mem_filter.mpr ⟨he, by simpa using hxe.symm⟩

end EntityDiscovery

end ParkFusion
