import ParkFusion.Proofs.IdLinks
import ParkFusion.Proofs.SharedIds
import ParkFusion.Provider.QueueTimes

namespace ParkFusion

open Mapping (Store)
open Matching

namespace Mapping.Store

variable {store : Store} {ms : List Mapping} {row : Mapping} {key : Key} {id : Uuid}

/-- Whatever fails on the way, some of the mappings have been inserted. -/
theorem record_eq_inserts (store : Store) (ms : List Mapping) :
    ∃ done : List Mapping, done.Sublist ms ∧ (store.record ms).2 = done.foldl insert store := by
  induction ms generalizing store with
  | nil => exact ⟨[], .slnil, rfl⟩
  | cons m ms ih =>
    rw [record]
    cases hupsert : store.upsert m with
    | ok stored =>
      obtain ⟨row, after⟩ := stored
      have hafter : after = store.insert m := by
        unfold upsert at hupsert
        split at hupsert
        · cases hupsert
        · split at hupsert <;> cases hupsert
          rfl
      obtain ⟨done, hsub, hdone⟩ := ih after
      exact ⟨m :: done, hsub.cons_cons m, by rw [List.foldl_cons, ← hafter, ← hdone]⟩
    | error e =>
      cases e with
      | duplicate key =>
        obtain ⟨done, hsub, hdone⟩ := ih store
        exact ⟨done, hsub.cons m, hdone⟩
      | backend text => exact ⟨[], List.nil_sublist _, rfl⟩

/-- A row stays that no mapping has the key of, or that is verified while no mapping for its key
is. -/
theorem row?_record (hr : store.row? key = some row)
    (h : (∀ m ∈ ms, m.key ≠ key) ∨ row.verified ∧ ∀ m ∈ ms, m.key = key → m.verified = false) :
    (store.record ms).2.row? key = some row := by
  obtain ⟨done, hsub, hdone⟩ := record_eq_inserts store ms
  rw [hdone]
  rcases h with h | ⟨hv, h⟩
  · rw [row?_inserts_of_ne fun m hm ↦ h m (hsub.subset hm), hr]
  · exact row?_inserts_of_verified hr hv fun m hm ↦ h m (hsub.subset hm)

theorem carries_of_record (h : (store.record ms).2.Carries key id) :
    store.Carries key id ∨ ∃ m ∈ ms, m.key = key ∧ m.id = id := by
  obtain ⟨done, hsub, hdone⟩ := record_eq_inserts store ms
  rw [hdone] at h
  rcases carries_of_inserts h with h | ⟨m, hm, hid⟩
  · exact Or.inl h
  · exact Or.inr ⟨m, hsub.subset hm, hid⟩

theorem carries_of_existingId {keys : List Key} (h : store.existingId keys = .ok (some id)) :
    ∃ key ∈ keys, store.Carries key id := by
  induction keys with
  | nil => cases h
  | cons key keys ih =>
    rw [existingId, find] at h
    split at h
    · cases h
    · cases hr : store.row? key with
      | none =>
        rw [hr] at h
        obtain ⟨key', hk, hid⟩ := ih h
        exact ⟨key', List.mem_cons_of_mem key hk, hid⟩
      | some row =>
        rw [hr] at h
        cases h
        exact ⟨key, List.mem_cons_self, row, hr, rfl⟩

end Mapping.Store

/-- A key that is not among some keys, or at which an operator has verified a row and nothing is
declared now. -/
def Mapping.Undisturbed (keys declared : List Key) (row : Mapping) : Prop :=
  row.key ∉ keys ∨ row.verified ∧ row.key ∉ declared

theorem Mapping.Undisturbed.row?_record {keys declared : List Key} {row : Mapping} {key : Key}
    {store : Store} {ms : List Mapping} (hr : store.row? key = some row)
    (h : row.Undisturbed keys declared)
    (hms : ∀ m ∈ ms, m.key ∈ keys ∧ (m.verified → m.key ∈ declared)) :
    (store.record ms).2.row? key = some row := by
  have hkey := Store.row?_key hr
  unfold Undisturbed at h
  rw [hkey] at h
  refine Store.row?_record hr (h.imp (fun h m hm hmk ↦ h (hmk ▸ (hms m hm).1)) ?_)
  rintro ⟨hv, hd⟩
  refine ⟨hv, fun m hm hmk ↦ ?_⟩
  by_contra hmv
  exact hd (hmk ▸ (hms m hm).2 (by simpa using hmv))

namespace ParkDiscovery

variable {store : Store} {supply : IdSupply} {bundles : List Bundle} {bundle : Bundle}
variable {d : ParkDiscovery} {ms : List Mapping} {m row : Mapping} {key : Key} {id : Uuid}

def keys (d : ParkDiscovery) : List Key :=
  d.groups.flatMap ParkGroup.keys ++ d.singleSource.map Park.key

def declared (d : ParkDiscovery) : List Key :=
  declaredKeys Park.key (d.groups.flatMap (·.pairs))

theorem exists_of_mem_proposeAll (h : (proposeAll store supply bundles).1 = .ok ms) (hm : m ∈ ms) :
    ∃ bundle ∈ bundles, ∃ s known, supply ≤ s ∧ store.existingId bundle.keys = .ok known ∧
      m ∈ bundle.mappings (s.orNew known).1 := by
  induction bundles generalizing supply ms with
  | nil =>
    cases h
    cases hm
  | cons bundle bundles ih =>
    rw [proposeAll] at h
    cases hknown : store.existingId bundle.keys with
    | error e =>
      rw [hknown] at h
      cases h
    | ok known =>
      rw [hknown] at h
      dsimp only at h
      cases hrest : (proposeAll store (supply.orNew known).2 bundles).1 with
      | error e =>
        rw [hrest] at h
        cases h
      | ok others =>
        rw [hrest] at h
        cases h
        rcases List.mem_append.mp hm with hm | hm
        · exact ⟨bundle, List.mem_cons_self, supply, known, le_refl supply, hknown, hm⟩
        · obtain ⟨bundle', hb, s, known', hs, hk⟩ := ih hrest hm
          exact ⟨bundle', List.mem_cons_of_mem bundle hb, s, known',
            (supply.orNew_le known).trans hs, hk⟩

theorem mapping_key_mem (hb : bundle ∈ d.bundles) (hm : m ∈ bundle.mappings id) :
    m.key ∈ d.keys ∧ (m.verified → m.key ∈ d.declared) := by
  rcases List.mem_append.mp hb with hb | hb
  · obtain ⟨g, hg, rfl⟩ := List.mem_map.mp hb
    obtain ⟨pair, hp, hm⟩ := List.mem_flatMap.mp hm
    obtain ⟨-, hk, hv⟩ := mem_ofMatch Subject.ofPark_key hm
    refine ⟨List.mem_append_left _ (List.mem_flatMap.mpr ⟨g, hg, g.key_mem_keys hp hk⟩),
      fun hmv ↦ ?_⟩
    exact mem_declaredKeys.mpr ⟨pair, List.mem_flatMap.mpr ⟨g, hg, hp⟩, hv.mp hmv, hk⟩
  · obtain ⟨p, hp, rfl⟩ := List.mem_map.mp hb
    rw [List.mem_singleton.mp hm]
    refine ⟨List.mem_append_right _ (List.mem_map_of_mem hp), fun hmv ↦ ?_⟩
    cases hmv

theorem persist_store (d : ParkDiscovery) (store : Store) (supply : IdSupply) :
    ∃ ms, (d.persist store supply).2.1 = (store.record ms).2 ∧ ∀ m ∈ ms,
      ∃ bundle ∈ d.bundles, ∃ s known, supply ≤ s ∧ store.existingId bundle.keys = .ok known ∧
        m ∈ bundle.mappings (s.orNew known).1 := by
  unfold persist
  have hmem := @exists_of_mem_proposeAll store supply d.bundles
  rcases hall : proposeAll store supply d.bundles with ⟨_ | ms, supply'⟩
  · exact ⟨[], rfl, fun m hm ↦ by cases hm⟩
  · rw [hall] at hmem
    exact ⟨ms, rfl, fun m hm ↦ hmem rfl hm⟩

theorem persist_undisturbed (supply : IdSupply) (hr : store.row? key = some row)
    (h : row.Undisturbed d.keys d.declared) :
    (d.persist store supply).2.1.row? key = some row := by
  obtain ⟨ms, hstore, hms⟩ := d.persist_store store supply
  rw [hstore]
  refine h.row?_record hr fun m hm ↦ ?_
  obtain ⟨bundle, hb, s, known, -, -, hm⟩ := hms m hm
  exact mapping_key_mem hb hm

theorem persist_id_source (h : (d.persist store supply).2.1.Carries key id) :
    Apportioned.Brought d.families store key id ∨ ∃ n, supply.used ≤ n ∧ supply.id n = id := by
  obtain ⟨ms, hstore, hms⟩ := d.persist_store store supply
  rw [hstore] at h
  rcases Store.carries_of_record h with h | ⟨m, hm, rfl, rfl⟩
  · exact Or.inl ⟨key, Or.inl rfl, h⟩
  · obtain ⟨bundle, hb, s, known, hs, hknown, hm⟩ := hms m hm
    rw [bundle_mapping_id hb hm]
    cases known with
    | none => exact Or.inr ⟨s.used, hs.2, congrFun hs.1 s.used⟩
    | some known =>
      obtain ⟨j, hj, hid⟩ := Store.carries_of_existingId hknown
      exact Or.inl ⟨j, bundle_together hb (Or.inr ⟨_, m, hm, rfl⟩) (Or.inl hj), hid⟩

end ParkDiscovery

namespace EntityDiscovery

variable {store : Store} {d : EntityDiscovery} {m row : Mapping} {key : Key}

def keys (d : EntityDiscovery) : List Key :=
  d.anchorEntities.map Entity.key ++ (d.unmatched.map Entity.key ++
    d.pairs.flatMap fun pair ↦ [pair.left.key, pair.right.key])

def declared (d : EntityDiscovery) : List Key :=
  declaredKeys Entity.key d.pairs

theorem propose_key_mem {known : Key → Option Uuid} {park : Uuid} {supply : IdSupply}
    (hm : m ∈ (d.propose known park supply).1) :
    m.key ∈ d.keys ∧ (m.verified → m.key ∈ d.declared) := by
  rcases List.mem_append.mp hm with hm | hm
  · rcases mem_assign_proposeOutcome _ hm with ⟨pair, hp, id, -, hm⟩ | hm
    · rw [List.flatMap_map] at hp
      obtain ⟨-, hk, hv⟩ := mem_ofMatch (Subject.ofEntity_key park) hm
      refine ⟨?_, fun hmv ↦ mem_declaredKeys.mpr ⟨pair, hp, hv.mp hmv, hk⟩⟩
      refine List.mem_append_right _ (List.mem_append_right _ (List.mem_flatMap.mpr ⟨pair, hp, ?_⟩))
      simpa using hk
    · rw [List.flatMap_map] at hm
      obtain ⟨e, he, supply', rfl⟩ := exists_of_mem_assign hm
      refine ⟨List.mem_append_right _ (List.mem_append_left _ (List.mem_map_of_mem he)),
        fun hmv ↦ ?_⟩
      cases hmv
  · obtain ⟨e, he, -, id, -, rfl⟩ := mem_proposeUnpaired.mp hm
    refine ⟨List.mem_append_left _ (List.mem_map_of_mem he), fun hmv ↦ ?_⟩
    cases hmv

theorem persist_undisturbed (park : Uuid) (supply : IdSupply) (hr : store.row? key = some row)
    (h : row.Undisturbed d.keys d.declared) :
    (d.persist park store supply).2.1.row? key = some row := by
  unfold persist
  cases store.entitiesOf park with
  | error e => exact hr
  | ok rows => exact h.row?_record hr fun m hm ↦ propose_key_mem hm

end EntityDiscovery

/-- Parks and entities stand in one table. A row changes only where the discovery has its key, and a
park takes an id from a park of its group or from the supply. -/
theorem persist_disturbs_own_keys (parks : ParkDiscovery) (entities : EntityDiscovery) (park : Uuid)
    (store : Store) (supply : IdSupply) :
    (∀ key row, store.row? key = some row → row.Undisturbed entities.keys entities.declared →
      (entities.persist park store supply).2.1.row? key = some row) ∧
    (∀ key row, store.row? key = some row → row.Undisturbed parks.keys parks.declared →
      (parks.persist store supply).2.1.row? key = some row) ∧
    ∀ key id, (parks.persist store supply).2.1.Carries key id →
      Apportioned.Brought parks.families store key id ∨ ∃ n, supply.used ≤ n ∧ supply.id n = id :=
  ⟨fun _ _ hr h ↦ entities.persist_undisturbed park supply hr h,
    fun _ _ hr h ↦ parks.persist_undisturbed supply hr h,
    fun _ _ h ↦ parks.persist_id_source h⟩

section Numbers

/-- A park with a number for its id, as the only one of the source that numbers its parks. -/
def numberedPark (id : UInt64) : ParkDiscovery :=
  .ofReplies (parkRule 0.75 {}) [("queue-times",
    .ok [QueueTimes.ListedPark.toPark ⟨id, "Movie Park", none, none, none, none, none⟩])]

def numberedRide (id : UInt64) : EntityDiscovery :=
  .ofReplies (entityRule 0.8 {}) [("queue-times",
    .ok [QueueTimes.toEntity "1" none ⟨id, "Taron", true, none, none⟩])]

def parkListed : Store × IdSupply :=
  ((numberedPark 1).persist {} Reached.counting).2

def rideListed (id : UInt64) : Store × IdSupply :=
  ((numberedRide id).persist ⟨0⟩ parkListed.1 parkListed.2).2

theorem persist_disturbs_own_keys_rideTwo :
    (∃ row ∈ parkListed.1.row? ⟨"queue-times", "1"⟩,
      row.Undisturbed (numberedRide 2).keys (numberedRide 2).declared ∧
        (rideListed 2).1.row? ⟨"queue-times", "1"⟩ = some row) ∧
    (∃ row ∈ (rideListed 2).1.row? ⟨"queue-times", "2"⟩,
      row.Undisturbed (numberedPark 1).keys (numberedPark 1).declared ∧
        ((numberedPark 1).persist (rideListed 2).1 (rideListed 2).2).2.1.row?
          ⟨"queue-times", "2"⟩ = some row) ∧
    (Apportioned.Brought (numberedPark 1).families {} ⟨"queue-times", "1"⟩ ⟨0⟩ ∨
      ∃ n, Reached.counting.used ≤ n ∧ Reached.counting.id n = ⟨0⟩) := by
  have hpark : ∃ row ∈ parkListed.1.row? ⟨"queue-times", "1"⟩,
      row.key ∉ (numberedRide 2).keys := by decide +kernel
  have hride : ∃ row ∈ (rideListed 2).1.row? ⟨"queue-times", "2"⟩,
      row.key ∉ (numberedPark 1).keys := by decide +kernel
  have hid : parkListed.1.Carries ⟨"queue-times", "1"⟩ ⟨0⟩ :=
    Store.carries_iff.mpr (by decide +kernel)
  obtain ⟨row, hr, hk⟩ := hpark
  obtain ⟨row', hr', hk'⟩ := hride
  refine ⟨⟨row, hr, Or.inl hk, ?_⟩, ⟨row', hr', Or.inl hk', ?_⟩, ?_⟩
  · exact (persist_disturbs_own_keys (numberedPark 1) (numberedRide 2) ⟨0⟩ parkListed.1
      parkListed.2).1 _ row hr (Or.inl hk)
  · exact (persist_disturbs_own_keys (numberedPark 1) (numberedRide 2) ⟨0⟩ (rideListed 2).1
      (rideListed 2).2).2.1 _ row' hr' (Or.inl hk')
  · exact (persist_disturbs_own_keys (numberedPark 1) (numberedRide 2) ⟨0⟩ {}
      Reached.counting).2.2 _ _ hid

/-- A ride with the number of a park takes its row, and then the park takes the id of the ride. -/
theorem ride_takes_row_of_park :
    let key : Key := ⟨"queue-times", "1"⟩
    let later := ((numberedPark 1).persist (rideListed 1).1 (rideListed 1).2).2
    (∃ row ∈ parkListed.1.row? key,
      row.subject.type = .park ∧ (rideListed 1).1.row? key ≠ some row) ∧
    ∃ row ∈ (rideListed 1).1.row? key, row.subject.type = .attraction ∧
      later.1.row? key ≠ some row ∧
      ∃ row' ∈ later.1.row? key, row'.subject.type = .park ∧ row'.id = row.id := by
  decide +kernel

end Numbers

end ParkFusion
