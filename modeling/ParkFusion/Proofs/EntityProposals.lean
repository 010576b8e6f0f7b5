import ParkFusion.Proofs.Proposals

namespace ParkFusion

open Mapping Matching
open Mapping.Store (Sound Proposes)

namespace EntityDiscovery

variable {known : Key → Option Uuid} {park : Uuid} {supply : IdSupply} {d : EntityDiscovery}
variable {e : Entity} {m : Mapping} {ids : List (String × Uuid)}

def pairs (d : EntityDiscovery) : List EntityMatch :=
  d.outcomes.flatMap (·.2.matched)

def unmatched (d : EntityDiscovery) : List Entity :=
  d.outcomes.flatMap (·.2.rightOnly)

def partners (d : EntityDiscovery) (e : Entity) : List EntityMatch :=
  d.pairs.filter (·.left.externalId = e.externalId)

/-- The keys of an anchor entity and of all that are matched to it. -/
def familyKeys (d : EntityDiscovery) (e : Entity) : List Key :=
  e.key :: (d.partners e).map (Entity.key ·.right)

/-- The pairs are of the anchor's entities, which their external ids tell apart, and no entity
stands at two places. -/
structure WellFormed (d : EntityDiscovery) : Prop where
  left_mem : ∀ pair ∈ d.pairs, pair.left ∈ d.anchorEntities
  ids_nodup : (d.anchorEntities.map (·.externalId)).Nodup
  keys_nodup : ((d.anchorEntities ++ (d.pairs.map (·.right) ++ d.unmatched)).map Entity.key).Nodup

theorem mem_partners {pair : EntityMatch} :
    pair ∈ d.partners e ↔ pair ∈ d.pairs ∧ pair.left.externalId = e.externalId := by
  simp [partners]

theorem partnerId?_eq (known : Key → Option Uuid) (d : EntityDiscovery) (e : Entity) :
    d.partnerId? known e = ((d.partners e).map (Entity.key ·.right)).findSome? known := by
  have hsearch : ∀ pairs : List EntityMatch,
      (pairs.findSome? fun pair ↦
        if pair.left.externalId = e.externalId then known pair.right.key else none) =
      ((pairs.filter (·.left.externalId = e.externalId)).map (Entity.key ·.right)).findSome?
        known := by
    intro pairs
    induction pairs with
    | nil => rfl
    | cons pair pairs ih =>
      by_cases hp : pair.left.externalId = e.externalId
      · simp [List.findSome?_cons, hp, ih]
      · simp [hp, ih]
  exact hsearch d.pairs

theorem known_or_partnerId (known : Key → Option Uuid) (d : EntityDiscovery) (e : Entity) :
    (known e.key).or (d.partnerId? known e) = (d.familyKeys e).findSome? known := by
  rw [partnerId?_eq, familyKeys, List.findSome?_cons]
  cases known e.key <;> rfl

def anchorIds (known : Key → Option Uuid) (d : EntityDiscovery) (supply : IdSupply) :
    List (String × Uuid) :=
  Entries.keepLast (assign (d.anchorId known) supply d.anchorEntities).1

theorem assign_anchorId_fst (known : Key → Option Uuid) (d : EntityDiscovery) (supply : IdSupply)
    (entities : List Entity) :
    (assign (d.anchorId known) supply entities).1.map (·.1) = entities.map (·.externalId) := by
  induction entities generalizing supply with
  | nil => rfl
  | cons e entities ih => exact congrArg (e.externalId :: ·) (ih _)

theorem propose_fst (known : Key → Option Uuid) (d : EntityDiscovery) (park : Uuid)
    (supply : IdSupply) : (d.propose known park supply).1 =
      (assign (proposeOutcome known (anchorIds known d supply) park)
        (assign (d.anchorId known) supply d.anchorEntities).2 (d.outcomes.map (·.2))).1.flatten ++
      d.proposeUnpaired (anchorIds known d supply) park := rfl

theorem WellFormed.lookup_anchorIds (h : d.WellFormed) (known : Key → Option Uuid)
    (supply : IdSupply) (he : e ∈ d.anchorEntities) :
    ∃ id, (anchorIds known d supply).lookup e.externalId = some id ∧
      ∀ first, (d.familyKeys e).findSome? known = some first → first = id := by
  have hfst := assign_anchorId_fst known d supply d.anchorEntities
  have hnodup : ((assign (d.anchorId known) supply d.anchorEntities).1.map (·.1)).Nodup :=
    hfst ▸ h.ids_nodup
  obtain ⟨supply', hm⟩ : ∃ supply', (d.anchorId known supply' e).1 ∈
      (assign (d.anchorId known) supply d.anchorEntities).1 := exists_mem_assign he
  rw [anchorIds, Entries.keepLast_eq_self hnodup]
  refine ⟨_, Entries.lookup_of_mem hnodup hm, fun first hf ↦ ?_⟩
  rw [← known_or_partnerId] at hf
  exact (IdSupply.orNew_eq hf).symm

theorem mem_proposeOutcome {outcome : Outcome Entity Float} :
    m ∈ (proposeOutcome known ids park supply outcome).1 ↔
      (∃ pair ∈ outcome.matched, ∃ id, ids.lookup pair.left.externalId = some id ∧
        m ∈ ofMatch id (Subject.ofEntity park) pair) ∨
      m ∈ (assign (single known park) supply outcome.rightOnly).1 := by
  rw [proposeOutcome, List.mem_append, List.mem_flatMap]
  refine or_congr_left (exists_congr fun pair ↦ and_congr_right fun _ ↦ ?_)
  cases ids.lookup pair.left.externalId <;> simp

theorem subject_of_mem_singles {entities : List Entity}
    (h : m ∈ (assign (single known park) supply entities).1) :
    ∃ e ∈ entities, m.subject = .ofEntity park e := by
  obtain ⟨e, he, supply', rfl⟩ := exists_of_mem_assign h
  exact ⟨e, he, rfl⟩

theorem mem_proposeUnpaired : m ∈ d.proposeUnpaired ids park ↔
    ∃ e ∈ d.anchorEntities, d.partners e = [] ∧ ∃ id, ids.lookup e.externalId = some id ∧
      m = Mapping.single id (.ofEntity park e) := by
  have hpaired : ∀ e : Entity, (!(d.outcomes.flatMap fun outcome ↦
      outcome.2.matched.map fun pair ↦ pair.left.externalId).contains e.externalId) = true ↔
        d.partners e = [] := by
    intro e
    rw [Bool.not_eq_true', Bool.eq_false_iff, ne_eq, List.contains_iff_mem,
      List.eq_nil_iff_forall_not_mem]
    constructor
    · rintro h pair hp
      obtain ⟨hpairs, he⟩ := mem_partners.mp hp
      obtain ⟨outcome, ho, hp⟩ := List.mem_flatMap.mp hpairs
      exact h (List.mem_flatMap.mpr ⟨outcome, ho, List.mem_map.mpr ⟨pair, hp, he⟩⟩)
    · intro h hm
      obtain ⟨outcome, ho, hm⟩ := List.mem_flatMap.mp hm
      obtain ⟨pair, hp, he⟩ := List.mem_map.mp hm
      exact h pair (mem_partners.mpr ⟨List.mem_flatMap.mpr ⟨outcome, ho, hp⟩, he⟩)
  simp only [proposeUnpaired, List.mem_filterMap, List.mem_filter, hpaired, Option.map_eq_some_iff,
    and_assoc, eq_comm (a := m)]

theorem mem_propose (known : Key → Option Uuid) (d : EntityDiscovery) (park : Uuid)
    (supply : IdSupply) (m : Mapping) :
    let ids := anchorIds known d supply
    let proposed := (d.propose known park supply).1
    (∀ pair ∈ d.pairs, ∀ id, ids.lookup pair.left.externalId = some id →
      m ∈ ofMatch id (Subject.ofEntity park) pair → m ∈ proposed) ∧
    (m ∈ d.proposeUnpaired ids park → m ∈ proposed) ∧
    (m ∈ proposed →
      (∃ pair ∈ d.pairs, ∃ id, ids.lookup pair.left.externalId = some id ∧
        m ∈ ofMatch id (Subject.ofEntity park) pair) ∨
      (∃ e ∈ d.unmatched, m.subject = .ofEntity park e) ∨ m ∈ d.proposeUnpaired ids park) := by
  intro ids proposed
  rw [show proposed = _ from propose_fst known d park supply]
  refine ⟨fun pair hpair id hid hm ↦ List.mem_append_left _ ?_, List.mem_append_right _,
    fun hm ↦ ?_⟩
  · obtain ⟨outcome, ho, hpair⟩ := List.mem_flatMap.mp hpair
    obtain ⟨supply'', hin⟩ : ∃ supply'', (proposeOutcome known ids park supply'' outcome.2).1 ∈
        (assign (proposeOutcome known ids park) (assign (d.anchorId known) supply d.anchorEntities).2
          (d.outcomes.map (·.2))).1 := exists_mem_assign (List.mem_map_of_mem ho)
    exact List.mem_flatten.mpr ⟨_, hin, mem_proposeOutcome.mpr (Or.inl ⟨pair, hpair, id, hid, hm⟩)⟩
  · rcases List.mem_append.mp hm with hm | hm
    · obtain ⟨list, hlist, hm⟩ := List.mem_flatten.mp hm
      obtain ⟨outcome, ho, supply'', rfl⟩ := exists_of_mem_assign hlist
      obtain ⟨source, hs, rfl⟩ := List.mem_map.mp ho
      rcases mem_proposeOutcome.mp hm with ⟨pair, hpair, hm⟩ | hm
      · exact Or.inl ⟨pair, List.mem_flatMap.mpr ⟨source, hs, hpair⟩, hm⟩
      · obtain ⟨e, he, hsubject⟩ := subject_of_mem_singles hm
        exact Or.inr (Or.inl ⟨e, List.mem_flatMap.mpr ⟨source, hs, he⟩, hsubject⟩)
    · exact Or.inr (Or.inr hm)

section Apart

variable (h : d.WellFormed) {e' : Entity} {pair pair' : EntityMatch}
include h

theorem WellFormed.anchor_eq (he : e ∈ d.anchorEntities) (he' : e' ∈ d.anchorEntities)
    (hk : e.key = e'.key) : e = e' := by
  have hkeys := h.keys_nodup
  rw [List.map_append] at hkeys
  exact List.inj_on_of_nodup_map (List.nodup_append'.mp hkeys).1 he he' hk

theorem WellFormed.pair_eq (hp : pair ∈ d.pairs) (hp' : pair' ∈ d.pairs)
    (hk : pair.right.key = pair'.right.key) : pair = pair' := by
  have hkeys := h.keys_nodup
  rw [List.map_append, List.map_append, List.map_map] at hkeys
  have hrights := (List.nodup_append'.mp (List.nodup_append'.mp hkeys).2.1).1
  exact List.inj_on_of_nodup_map hrights hp hp' hk

theorem WellFormed.anchor_key_ne (he : e ∈ d.anchorEntities)
    (he' : e' ∈ d.pairs.map (·.right) ++ d.unmatched) : e.key ≠ e'.key := by
  have hkeys := h.keys_nodup
  rw [List.map_append] at hkeys
  exact fun hk ↦ (List.nodup_append'.mp hkeys).2.2 (List.mem_map_of_mem he)
    (hk ▸ List.mem_map_of_mem he')

theorem WellFormed.right_key_ne (hp : pair ∈ d.pairs) (he : e ∈ d.unmatched) :
    pair.right.key ≠ e.key := by
  have hkeys := h.keys_nodup
  rw [List.map_append, List.map_append] at hkeys
  exact fun hk ↦ (List.nodup_append'.mp (List.nodup_append'.mp hkeys).2.1).2.2
    (List.mem_map_of_mem (List.mem_map_of_mem hp)) (hk ▸ List.mem_map_of_mem he)

theorem WellFormed.left_eq (he : e ∈ d.anchorEntities) (hp : pair ∈ d.partners e) :
    pair.left = e := by
  obtain ⟨hpairs, hl⟩ := mem_partners.mp hp
  exact List.inj_on_of_nodup_map h.ids_nodup (h.left_mem pair hpairs) he hl

theorem WellFormed.eq_of_mem_familyKeys (he : e ∈ d.anchorEntities) (he' : e' ∈ d.anchorEntities)
    (hk : e'.key ∈ d.familyKeys e) : e' = e := by
  rcases List.mem_cons.mp hk with hk | hk
  · exact h.anchor_eq he' he hk
  · obtain ⟨pair, hp, hk⟩ := List.mem_map.mp hk
    have hrest := List.mem_append_left d.unmatched
      (List.mem_map_of_mem (f := (·.right)) (mem_partners.mp hp).1)
    exact absurd hk.symm (h.anchor_key_ne he' hrest)

theorem WellFormed.unmatched_key_not_mem (he : e ∈ d.anchorEntities) (he' : e' ∈ d.unmatched) :
    e'.key ∉ d.familyKeys e := by
  intro hk
  rcases List.mem_cons.mp hk with hk | hk
  · exact h.anchor_key_ne he (List.mem_append_right _ he') hk.symm
  · obtain ⟨pair, hp, hk⟩ := List.mem_map.mp hk
    exact h.right_key_ne (mem_partners.mp hp).1 he' hk

theorem WellFormed.mem_partners_of_key (he : e ∈ d.anchorEntities) (hp : pair ∈ d.pairs) {k : Key}
    (hk : k ∈ d.familyKeys e) (hkp : k = pair.left.key ∨ k = pair.right.key) :
    pair ∈ d.partners e := by
  rcases hkp with rfl | rfl
  · rw [mem_partners, h.eq_of_mem_familyKeys he (h.left_mem pair hp) hk]
    exact ⟨hp, rfl⟩
  · rcases List.mem_cons.mp hk with hk | hk
    · have hrest := List.mem_append_left d.unmatched (List.mem_map_of_mem (f := (·.right)) hp)
      exact absurd hk.symm (h.anchor_key_ne he hrest)
    · obtain ⟨pair', hp', hk⟩ := List.mem_map.mp hk
      rwa [h.pair_eq hp (mem_partners.mp hp').1 hk.symm]

end Apart

/-- An anchor entity and all that are matched to it are proposed under the id of the anchor. -/
theorem WellFormed.proposes_lookup (h : d.WellFormed) (he : e ∈ d.anchorEntities)
    (known : Key → Option Uuid) (park : Uuid) (supply : IdSupply) {id : Uuid}
    (hid : (anchorIds known d supply).lookup e.externalId = some id) :
    Proposes (d.propose known park supply).1 (d.familyKeys e)
      (declaredKeys Entity.key (d.partners e)) id := by
  have hmem := mem_propose known d park supply
  have hin : ∀ pair ∈ d.partners e, ∀ m ∈ ofMatch id (Subject.ofEntity park) pair,
      m ∈ (d.propose known park supply).1 := by
    intro pair hp m hm
    obtain ⟨hp, hl⟩ := mem_partners.mp hp
    exact (hmem m).1 pair hp id (hl ▸ hid) hm
  refine proposes_of_pairs (Subject.ofEntity_key park) ?_ hin fun m hm hk ↦ ?_
  · cases hpartners : d.partners e with
    | nil =>
      exact ⟨_, (hmem _).2.1 (mem_proposeUnpaired.mpr ⟨e, he, hpartners, id, hid, rfl⟩), rfl⟩
    | cons pair pairs =>
      have hp : pair ∈ d.partners e := hpartners ▸ List.mem_cons_self
      obtain ⟨m, hm, hmk⟩ := exists_ofMatch id pair (Subject.ofEntity_key park) (Or.inl rfl)
      exact ⟨m, hin pair hp m hm, hmk.trans (congrArg Entity.key (h.left_eq he hp))⟩
  · rcases (hmem m).2.2 hm with ⟨pair, hp, id', hid', hm⟩ | ⟨e', he', hsubject⟩ | hm
    · have hpartner := h.mem_partners_of_key he hp hk (mem_ofMatch (Subject.ofEntity_key park) hm).2.1
      rw [(mem_partners.mp hpartner).2, hid] at hid'
      exact Or.inl ⟨pair, hpartner, Option.some.inj hid' ▸ hm⟩
    · have hmk : m.key = e'.key := congrArg Subject.key hsubject
      exact absurd (hmk ▸ hk) (h.unmatched_key_not_mem he he')
    · obtain ⟨e', he', -, id', hid', rfl⟩ := mem_proposeUnpaired.mp hm
      have heq : e' = e := h.eq_of_mem_familyKeys he he' hk
      rw [heq, hid] at hid'
      exact Or.inr ⟨(Option.some.inj hid').symm, rfl⟩

/-- That id is the one that the first known of them has. -/
theorem WellFormed.proposes (h : d.WellFormed) (he : e ∈ d.anchorEntities)
    (known : Key → Option Uuid) (park : Uuid) (supply : IdSupply) :
    ∃ id, (∀ first, (d.familyKeys e).findSome? known = some first → first = id) ∧
      Proposes (d.propose known park supply).1 (d.familyKeys e)
        (declaredKeys Entity.key (d.partners e)) id := by
  obtain ⟨id, hid, hfirst⟩ := h.lookup_anchorIds known supply he
  exact ⟨id, hfirst, h.proposes_lookup he known park supply hid⟩

theorem persist_eq {store : Mapping.Store} (h : Sound store) (d : EntityDiscovery) (park : Uuid)
    (supply : IdSupply) :
    let proposed := d.propose (store.entityIdOf? park) park supply
    d.persist park store supply =
      (.ok proposed.1.length, proposed.1.foldl Mapping.Store.insert store, proposed.2) := by
  obtain ⟨rows, hrows, hknown⟩ := h.entitiesOf park
  rw [persist, hrows]
  dsimp only
  rw [hknown, h.record]

end EntityDiscovery

end ParkFusion
