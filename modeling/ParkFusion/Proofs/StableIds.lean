import ParkFusion.Proofs.RowFrames

namespace ParkFusion

open Mapping Matching
open Mapping.Store (Sound Proposes Settled)

namespace IdSupply

variable {s s' t t' : IdSupply} {known : Option Uuid} {id : Uuid}

/-- The id is drawn on the way from one supply to another. -/
def Draws (s t : IdSupply) (id : Uuid) : Prop :=
  ∃ n, s.used ≤ n ∧ n < t.used ∧ s.id n = id

/-- The id is the known one. If none is known it is drawn on the way. -/
def Takes (s t : IdSupply) (known : Option Uuid) (id : Uuid) : Prop :=
  known = some id ∨ known = none ∧ s.Draws t id

theorem Takes.mono (h : s.Takes t known id) (hs : s' ≤ s) (ht : t ≤ t') : s'.Takes t' known id := by
  refine h.imp_right (And.imp_right ?_)
  rintro ⟨n, hn, hlt, rfl⟩
  exact ⟨n, hs.2.trans hn, hlt.trans_le ht.2, congrFun hs.1 n⟩

theorem orNew_takes (s : IdSupply) (known : Option Uuid) :
    s.Takes (s.orNew known).2 known (s.orNew known).1 := by
  cases known with
  | none => exact Or.inr ⟨rfl, s.used, le_rfl, Nat.lt_succ_self _, rfl⟩
  | some id => exact Or.inl rfl

end IdSupply

namespace EntityDiscovery

variable {d : EntityDiscovery} {store : Store} {park id : Uuid} {supply : IdSupply}
variable {known : Key → Option Uuid} {e : Entity} {row m : Mapping}

/-- The id that an entity has in the park already, or else, if it is of the anchor, a partner of it. -/
def knownId? (known : Key → Option Uuid) (d : EntityDiscovery) (e : Entity) : Option Uuid :=
  if e ∈ d.anchorEntities then (known e.key).or (d.partnerId? known e) else known e.key

theorem knownId?_of_known (h : known e.key = some id) : d.knownId? known e = some id := by
  rw [knownId?, h]
  split <;> rfl

theorem anchorId_le (known : Key → Option Uuid) (d : EntityDiscovery) (s : IdSupply) (e : Entity) :
    s ≤ (d.anchorId known s e).2 :=
  s.orNew_le _

theorem single_le (known : Key → Option Uuid) (park : Uuid) (s : IdSupply) (e : Entity) :
    s ≤ (single known park s e).2 :=
  s.orNew_le _

section WellFormed

variable (h : d.WellFormed)
include h

theorem WellFormed.exists_anchorId (he : e ∈ d.anchorEntities) (known : Key → Option Uuid)
    (supply : IdSupply) :
    ∃ id, supply.Takes (assign (d.anchorId known) supply d.anchorEntities).2 (d.knownId? known e) id ∧
      (anchorIds known d supply).lookup e.externalId = some id := by
  obtain ⟨id, hid, -⟩ := h.lookup_anchorIds known supply he
  obtain ⟨x, hx, hxe, rfl⟩ := exists_of_lookup_anchorIds hid
  have hsame : x.1 = e :=
    List.inj_on_of_nodup_map h.ids_nodup (fst_mem_of_mem_stages hx) he hxe
  obtain ⟨hbefore, hafter⟩ := stage_bounds (anchorId_le known d) hx
  rw [anchorId_snd] at hafter
  refine ⟨_, ?_, hid⟩
  rw [hsame] at hafter ⊢
  rw [knownId?, if_pos he, known_or_partnerId]
  exact (x.2.orNew_takes _).mono hbefore hafter

theorem WellFormed.unmatched_not_anchor (he : e ∈ d.unmatched) : e ∉ d.anchorEntities :=
  fun ha ↦ h.anchor_key_ne ha (List.mem_append_right _ he) rfl

theorem WellFormed.unmatched_keys_nodup : (d.unmatched.map Entity.key).Nodup := by
  have hkeys := h.keys_nodup
  rw [List.map_append, List.map_append] at hkeys
  exact (List.nodup_append'.mp (List.nodup_append'.mp hkeys).2.1).2.1

theorem WellFormed.unmatched_mapping (he : e ∈ d.unmatched) (known : Key → Option Uuid)
    (park : Uuid) (supply : IdSupply) :
    ∃ id, supply.Takes (assign (single known park) supply d.unmatched).2 (known e.key) id ∧
      ∀ m ∈ (assign (single known park) supply d.unmatched).1, m.key = e.key →
        m = Mapping.single id (.ofEntity park e) := by
  have hnodup := h.unmatched_keys_nodup
  obtain ⟨before, after, hsplit⟩ := List.append_of_mem he
  rw [hsplit, List.map_append, List.map_cons] at hnodup
  obtain ⟨-, htail, hbefore⟩ := List.nodup_append'.mp hnodup
  have hafter := (List.nodup_cons.mp htail).1
  rw [hsplit, assign_append]
  have htakes := IdSupply.orNew_takes (assign (single known park) supply before).2 (known e.key)
  refine ⟨_, htakes.mono (assign_le (single_le known park) supply before)
    (assign_le (single_le known park) _ after), fun m hm hk ↦ ?_⟩
  -- keys tell the entities apart, so that the mapping is that of the entity itself
  rcases List.mem_append.mp hm with hm | hm
  · obtain ⟨e', he', s, rfl⟩ := exists_of_mem_assign hm
    exact absurd List.mem_cons_self (hbefore (hk ▸ List.mem_map_of_mem he'))
  · rcases List.mem_cons.mp hm with rfl | hm
    · rfl
    · obtain ⟨e', he', s, rfl⟩ := exists_of_mem_assign hm
      exact absurd (hk ▸ List.mem_map_of_mem he') hafter

theorem WellFormed.unmatched_id (he : e ∈ d.unmatched) (known : Key → Option Uuid) (park : Uuid)
    (supply : IdSupply) :
    ∃ id, supply.Takes (d.propose known park supply).2 (known e.key) id ∧
      ∀ m ∈ (d.propose known park supply).1, m.key = e.key → m.id = id := by
  obtain ⟨id, htakes, hsingle⟩ := h.unmatched_mapping he known park
    (assign (d.anchorId known) supply d.anchorEntities).2
  rw [← propose_supply] at htakes
  refine ⟨id, htakes.mono (assign_le (anchorId_le known d) supply _) le_rfl, fun m hm hk ↦ ?_⟩
  rw [propose_fst] at hm
  rcases List.mem_append.mp hm with hm | hm
  · rcases mem_assign_proposeOutcome _ hm with ⟨pair, hp, id, -, hm⟩ | hm
    · rw [List.flatMap_map] at hp
      rcases (mem_ofMatch (Subject.ofEntity_key park) hm).2.1 with hmk | hmk
      · exact absurd (hmk.symm.trans hk)
          (h.anchor_key_ne (h.left_mem pair hp) (List.mem_append_right _ he))
      · exact absurd (hmk.symm.trans hk) (h.right_key_ne hp he)
    · rw [List.flatMap_map] at hm
      rw [hsingle m hm hk]
      rfl
  · obtain ⟨e', he', -, id, -, rfl⟩ := mem_proposeUnpaired.mp hm
    exact absurd hk (h.anchor_key_ne he' (List.mem_append_right _ he))

theorem WellFormed.exists_declared_mapping {key : Key} (hk : key ∈ d.declared)
    (known : Key → Option Uuid) (park : Uuid) (supply : IdSupply) :
    ∃ m ∈ (d.propose known park supply).1, m.key = key ∧ m.verified := by
  obtain ⟨pair, hp, hmethod, hkey⟩ := mem_declaredKeys.mp hk
  obtain ⟨id, hid, -⟩ := h.lookup_anchorIds known supply (h.left_mem pair hp)
  obtain ⟨m, hm, hmk⟩ := exists_ofMatch id pair (Subject.ofEntity_key park) hkey
  exact ⟨m, (mem_propose known d park supply m).1 pair hp id hid hm, hmk,
    (mem_ofMatch (Subject.ofEntity_key park) hm).2.2.mpr hmethod⟩

end WellFormed

theorem exists_unmatched_mapping (he : e ∈ d.unmatched) (known : Key → Option Uuid) (park : Uuid)
    (supply : IdSupply) : ∃ m ∈ (d.propose known park supply).1, m.key = e.key := by
  obtain ⟨outcome, ho, he⟩ := List.mem_flatMap.mp he
  obtain ⟨s, hlist⟩ : ∃ s, (proposeOutcome known (anchorIds known d supply) park s outcome.2).1 ∈
      (assign (proposeOutcome known (anchorIds known d supply) park)
        (assign (d.anchorId known) supply d.anchorEntities).2 (d.outcomes.map (·.2))).1 :=
    exists_mem_assign (List.mem_map_of_mem ho)
  obtain ⟨s', hm⟩ : ∃ s', (single known park s' e).1 ∈
      (assign (single known park) s outcome.2.rightOnly).1 := exists_mem_assign he
  rw [propose_fst]
  exact ⟨_, List.mem_append_left _ (List.mem_flatten.mpr
    ⟨_, hlist, mem_proposeOutcome.mpr (Or.inr hm)⟩), rfl⟩

theorem WellFormed.proposes_own (h : d.WellFormed) (he : e ∈ d.anchorEntities ∨ e ∈ d.unmatched)
    (known : Key → Option Uuid) (park : Uuid) (supply : IdSupply) :
    ∃ id, supply.Takes (d.propose known park supply).2 (d.knownId? known e) id ∧
      Proposes (d.propose known park supply).1 [e.key] d.declared id := by
  have hverified : ∀ key ∈ [e.key], key ∈ d.declared ↔
      ∃ m ∈ (d.propose known park supply).1, m.key = key ∧ m.verified := by
    refine fun key _ ↦ ⟨fun hk ↦ h.exists_declared_mapping hk known park supply, ?_⟩
    rintro ⟨m, hm, rfl, hv⟩
    exact (propose_key_mem hm).2 hv
  rcases he with he | he
  · obtain ⟨id, htakes, hid⟩ := h.exists_anchorId he known supply
    have hfamily := h.proposes_lookup he known park supply hid
    have hle := assign_le (single_le known park)
      (assign (d.anchorId known) supply d.anchorEntities).2 d.unmatched
    rw [← propose_supply] at hle
    refine ⟨id, htakes.mono le_rfl hle, fun key hk ↦ ?_, fun m hm hk ↦ ?_, hverified⟩
    · exact hfamily.covers key (List.mem_singleton.mp hk ▸ List.mem_cons_self)
    · exact hfamily.id_eq m hm (List.mem_singleton.mp hk ▸ List.mem_cons_self)
  · obtain ⟨id, htakes, hid⟩ := h.unmatched_id he known park supply
    rw [knownId?, if_neg (h.unmatched_not_anchor he)]
    refine ⟨id, htakes, fun key hk ↦ ?_, fun m hm hk ↦ hid m hm (List.mem_singleton.mp hk), hverified⟩
    rw [List.mem_singleton.mp hk]
    exact exists_unmatched_mapping he known park supply

/-- Why an entity keeps the id of its row when the entities of a park are persisted. -/
inductive Retains (d : EntityDiscovery) (store : Store) (park : Uuid) (e : Entity) (row : Mapping) :
    Prop
  /-- The row was recorded for this park. -/
  | ofPark : row.subject.park = some park → Retains d store park e row
  /-- An operator has verified the row, and the entity is in no declared pair. -/
  | verified : row.verified → e.key ∉ d.declared → Retains d store park e row
  /-- Of the entities that are matched to this one the first that is known in the park has the id. -/
  | partner : e ∈ d.anchorEntities →
      d.partnerId? (store.entityIdOf? park) e = some row.id → Retains d store park e row

theorem retains_iff (hr : store.row? e.key = some row) : d.Retains store park e row ↔
    store.Resists d.declared e.key row ∨
      d.knownId? (store.entityIdOf? park) e = some row.id := by
  constructor
  · rintro (hp | ⟨hv, hk⟩ | ⟨he, hpartner⟩)
    · exact Or.inr (knownId?_of_known (Store.entityIdOf?_of_row hr hp))
    · exact Or.inl ⟨hr, hv, hk⟩
    · refine Or.inr ?_
      by_cases hp : row.subject.park = some park
      · exact knownId?_of_known (Store.entityIdOf?_of_row hr hp)
      · rw [knownId?, if_pos he, Store.entityIdOf?_of_other hr hp, Option.none_or, hpartner]
  · rintro (⟨-, hv, hk⟩ | hknown)
    · exact .verified hv hk
    · by_cases hp : row.subject.park = some park
      · exact .ofPark hp
      · rw [knownId?, Store.entityIdOf?_of_other hr hp, Option.none_or] at hknown
        split at hknown
        · rename_i he
          exact .partner he hknown
        · cases hknown

/-- An entity keeps the id that it has in the store, for one of three reasons. For no other, unless it
happens to be drawn again. -/
theorem persist_keepsIds (hs : Sound store) (h : d.WellFormed)
    (he : e ∈ d.anchorEntities ∨ e ∈ d.unmatched) (hr : store.row? e.key = some row) (park : Uuid)
    (supply : IdSupply) :
    let persisted := d.persist park store supply
    (∃ count, persisted.1 = .ok count) ∧
    (d.Retains store park e row → persisted.2.1.idOf? e.key = some row.id) ∧
    (persisted.2.1.idOf? e.key = some row.id →
      d.Retains store park e row ∨ supply.Draws persisted.2.2 row.id) := by
  intro persisted
  obtain ⟨id, htakes, hproposes⟩ := h.proposes_own he (store.entityIdOf? park) park supply
  have hsettled := hproposes.settled store
  have hkey : e.key ∈ [e.key] := List.mem_singleton_self _
  have hpersisted : persisted = _ := persist_eq hs d park supply
  rw [hpersisted, retains_iff hr]
  refine ⟨⟨_, rfl⟩, ?_⟩
  -- a row that resists stays as it is, and any other one takes the id that is proposed
  by_cases hresists : store.Resists d.declared e.key row
  · refine ⟨fun _ ↦ ?_, fun _ ↦ Or.inl (Or.inl hresists)⟩
    rw [Store.idOf?, hsettled.kept e.key hkey row hresists, Option.map_some]
  · have hcarried := Store.carries_iff.mp (hsettled.carried e.key hkey fun other hother ↦
      hresists (Option.some.inj (hother.1.symm.trans hr) ▸ hother))
    rw [hcarried, Option.some_inj]
    refine ⟨fun hretains ↦ ?_, fun hid ↦ ?_⟩
    · have hknown := hretains.resolve_left hresists
      rcases htakes with htaken | ⟨hunknown, -⟩
      · exact Option.some.inj (htaken.symm.trans hknown)
      · cases hunknown.symm.trans hknown
    · rw [hid] at htakes
      rcases htakes with htaken | ⟨-, hdrawn⟩
      · exact Or.inl (Or.inr htaken)
      · exact Or.inr hdrawn

section Moved

def taron : Entity :=
  Reached.taron "themeparks-wiki"

def nessie : Entity :=
  { externalId := "2", source := "queue-times", name := "Nessie", entityType := .attraction }

/-- A ride of the anchor and one of another source, which do not match. -/
def loneRides : EntityDiscovery where
  anchor := some "themeparks-wiki"
  anchorEntities := [taron]
  outcomes := [("queue-times", { leftOnly := [taron], rightOnly := [nessie] })]

def recordedRides : Store where
  rows := [.single ⟨1⟩ (.ofEntity ⟨0xaa⟩ taron), .single ⟨2⟩ (.ofEntity ⟨0xaa⟩ nessie)]

def laterIds : IdSupply :=
  { Reached.counting with used := 3 }

theorem persist_keepsIds_loneRides :
    let persisted := loneRides.persist ⟨0xaa⟩ recordedRides laterIds
    Sound recordedRides ∧ loneRides.WellFormed ∧ taron ∈ loneRides.anchorEntities ∧
      nessie ∈ loneRides.unmatched ∧ (∃ count, persisted.1 = .ok count) ∧
      persisted.2.1.idOf? taron.key = some ⟨1⟩ ∧ persisted.2.1.idOf? nessie.key = some ⟨2⟩ := by
  have hs : Sound recordedRides := ⟨rfl, by decide⟩
  have hd : loneRides.WellFormed := ⟨by decide, by decide, by decide⟩
  have htaron : taron ∈ loneRides.anchorEntities := List.mem_singleton_self _
  have hnessie : nessie ∈ loneRides.unmatched := List.mem_singleton_self _
  have hkept := persist_keepsIds hs hd (Or.inl htaron) rfl ⟨0xaa⟩ laterIds
  have hkept' := persist_keepsIds hs hd (Or.inr hnessie) rfl ⟨0xaa⟩ laterIds
  exact ⟨hs, hd, htaron, hnessie, hkept.1, hkept.2.1 (.ofPark rfl), hkept'.2.1 (.ofPark rfl)⟩

def namesakes : EntityDiscovery where
  anchor := some "themeparks-wiki"
  anchorEntities := [taron, Reached.taron "queue-times"]

/-- For another park the rides come under new ids. For its own park an entity of the anchor does if
another one has the same external id. -/
theorem ids_lost :
    (Sound recordedRides ∧ loneRides.WellFormed ∧
      ∀ e ∈ loneRides.anchorEntities ++ loneRides.unmatched,
        (recordedRides.row? e.key).isSome ∧
          (loneRides.persist ⟨0xbb⟩ recordedRides laterIds).2.1.idOf? e.key ≠
            recordedRides.idOf? e.key) ∧
    (namesakes.anchorEntities.map Entity.key).Nodup ∧ namesakes.outcomes = [] ∧
      recordedRides.entityIdOf? ⟨0xaa⟩ taron.key = some ⟨1⟩ ∧
      (namesakes.persist ⟨0xaa⟩ recordedRides laterIds).2.1.idOf? taron.key ≠ some ⟨1⟩ := by
  have hs : Sound recordedRides := ⟨rfl, by decide⟩
  have hd : loneRides.WellFormed := ⟨by decide, by decide, by decide⟩
  refine ⟨⟨hs, hd, ?_⟩, by decide, rfl, rfl, ?_⟩
  · rw [persist_eq hs]
    decide +kernel
  · rw [persist_eq hs]
    decide +kernel

end Moved

end EntityDiscovery

end ParkFusion
