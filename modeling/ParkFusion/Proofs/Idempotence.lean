import ParkFusion.Proofs.Rereading
import ParkFusion.Proofs.Scripts
import ParkFusion.Proofs.SharedIds

namespace ParkFusion

open Mapping Matching
open Mapping.Store (Sound Restates)

section Assign

variable {α β γ : Type} {R : β → γ → Prop} {f : IdSupply → α → β × IdSupply}
variable {g : IdSupply → α → γ × IdSupply}

/-- Two assignments compare if they do wherever the first one comes, whatever the second one has
left to draw from. -/
theorem assign_forall₂ {supply : IdSupply} {l : List α}
    (h : ∀ before a after, l = before ++ a :: after →
      ∀ supply', R (f (assign f supply before).2 a).1 (g supply' a).1) (supply' : IdSupply) :
    List.Forall₂ R (assign f supply l).1 (assign g supply' l).1 := by
  induction l generalizing supply supply' with
  | nil => exact .nil
  | cons a l ih =>
    refine .cons (h [] a l rfl supply') (ih (fun before b after hl ↦ ?_) _)
    exact h (a :: before) b after (congrArg (a :: ·) hl)

end Assign

theorem forall₂_flatMap {α β γ : Type} {R : β → γ → Prop} {f : α → List β} {g : α → List γ}
    {l : List α} (h : ∀ a ∈ l, List.Forall₂ R (f a) (g a)) :
    List.Forall₂ R (l.flatMap f) (l.flatMap g) := by
  induction l with
  | nil => exact .nil
  | cons a l ih =>
    exact List.rel_append (h a List.mem_cons_self) (ih fun b hb ↦ h b (List.mem_cons_of_mem a hb))

/-- The second run of something counts what the first one did, and changes nothing. -/
def SettlesAtOnce (persist : Store → IdSupply → Except StoreError Nat × Store × IdSupply)
    (store : Store) : Prop :=
  ∀ supply supply', (∃ count, (persist store supply).1 = .ok count ∧
      (persist (persist store supply).2.1 supply').1 = .ok count) ∧
    (persist (persist store supply).2.1 supply').2.1 = (persist store supply).2.1

namespace ParkDiscovery

variable {d : ParkDiscovery} {store : Store} {g : ParkGroup} {before after : List Bundle}

/-- The id of a group is read back by the next run. -/
theorem Tidy.group_id_again (h : d.Tidy) (hg : g ∈ d.groups)
    (hsplit : d.bundles = before ++ ofGroup g :: after) (supply supply' : IdSupply) :
    proposeBundle ((d.proposals store supply).foldl Store.insert store) supply' (ofGroup g) =
      ((proposeBundle store (assign (proposeBundle store) supply before).2 (ofGroup g)).1,
        supply') := by
  let picked := (assign (proposeBundle store) supply before).2.orNew
    ((ofGroup g).keys.findSome? store.idOf?)
  have hin : (ofGroup g).mappings picked.1 ⊆ d.proposals store supply := by
    rw [proposals_split hsplit]
    exact fun m hm ↦ List.mem_append_right _ (List.mem_append_left _ hm)
  have hid : ∀ m ∈ d.proposals store supply, m.key ∈ (ofGroup g).keys → m.id = picked.1 := by
    intro m hm hk
    obtain ⟨pair, -, hm⟩ := List.mem_flatMap.mp (h.mem_proposals hg hsplit store supply hm hk)
    exact (mem_ofMatch Subject.ofPark_key hm).1
  -- the right park of any pair has a row afterwards
  obtain ⟨pair, hp⟩ := List.exists_mem_of_ne_nil _ (h.pairs_ne_nil g hg)
  obtain ⟨m, hm, hmk⟩ := exists_ofMatch picked.1 pair Subject.ofPark_key (Or.inr rfl)
  have hright : pair.right.key ∈ (ofGroup g).keys :=
    List.mem_cons_of_mem _ (List.mem_map_of_mem (List.mem_map_of_mem hp))
  have hsome := Store.isSome_inserts_of_mem (hin (List.mem_flatMap.mpr ⟨pair, hp, hm⟩)) store
  have hagain : (ofGroup g).keys.findSome?
      ((d.proposals store supply).foldl Store.insert store).idOf? = some picked.1 := by
    rw [Store.idOf?_eq_idWhere]
    refine Store.findSome?_idWhere_inserts (fun first hf ↦ ?_) hid (fun _ _ ↦ rfl)
      ⟨pair.right.key, hright, ?_⟩
    · rw [← Store.idOf?_eq_idWhere] at hf
      exact (IdSupply.orNew_eq hf).symm
    · rw [← Store.idOf?_eq_idWhere, Store.idOf?, Option.isSome_map, ← hmk]
      exact hsome
  rw [proposeBundle, hagain]
  rfl

theorem Tidy.proposals_restated (h : d.Tidy) (store : Store) (supply supply' : IdSupply) :
    let after := (d.proposals store supply).foldl Store.insert store
    List.Forall₂ (Restates after) (d.proposals store supply) (d.proposals after supply') := by
  intro after
  refine List.rel_flatten (assign_forall₂ (fun first bundle rest hsplit supply' ↦ ?_) supply')
  have hb : bundle ∈ d.bundles := hsplit ▸ List.mem_append_right _ List.mem_cons_self
  rcases List.mem_append.mp hb with hb | hb
  · obtain ⟨g, hg, rfl⟩ := List.mem_map.mp hb
    rw [h.group_id_again hg hsplit supply supply']
    exact List.forall₂_same.mpr fun m _ ↦ .refl after m
  · obtain ⟨p, -, rfl⟩ := List.mem_map.mp hb
    refine .cons ⟨rfl, rfl, fun hstands ↦ ?_⟩ .nil
    have hknown : (ofSingle p).keys.findSome? after.idOf? =
        some ((assign (proposeBundle store) supply first).2.orNew
          ((ofSingle p).keys.findSome? store.idOf?)).1 := by
      refine List.findSome?_cons.trans ?_
      rw [Store.idOf?, show after.row? p.key = _ from hstands]
      rfl
    exact congrArg (Mapping.single · (.ofPark p)) (IdSupply.orNew_eq hknown)

theorem Tidy.settlesAtOnce (h : d.Tidy) (hs : Sound store) :
    SettlesAtOnce d.persist store := by
  intro supply supply'
  have hagain := h.proposals_restated store supply supply'
  rw [persist_eq hs, persist_eq (hs.inserts _)]
  exact ⟨⟨_, rfl, congrArg Except.ok hagain.length_eq.symm⟩, hs.inserts_again hagain⟩

end ParkDiscovery

section OfMatch

variable {α : Type} {subject : α → Subject} {pair : Match α Float} {id id' : Uuid} {after : Store}

theorem ofMatch_restated
    (h : ∀ m ∈ ofMatch id subject pair, after.row? m.key = some m → id' = id) :
    List.Forall₂ (Restates after) (ofMatch id subject pair) (ofMatch id' subject pair) := by
  have hrecord : ∀ record ∈ [pair.left, pair.right], Restates after
      ⟨id, subject record, pair.confidence, .ofMatch pair.method, pair.method = .manualOverride⟩
      ⟨id', subject record, pair.confidence, .ofMatch pair.method,
        pair.method = .manualOverride⟩ := fun record hr ↦
    ⟨rfl, rfl, fun hstands ↦ by rw [h _ (List.mem_map_of_mem hr) hstands]⟩
  exact List.forall₂_map_left_iff.mpr (List.forall₂_map_right_iff.mpr (List.forall₂_same.mpr hrecord))

end OfMatch

namespace EntityDiscovery

variable {d : EntityDiscovery} {store : Store} {park : Uuid} {supply supply' : IdSupply}
variable {known : Key → Option Uuid} {e : Entity} {m : Mapping} {id id' : Uuid}

theorem propose_park (hm : m ∈ (d.propose known park supply).1) : m.subject.park = some park := by
  rcases (mem_propose known d park supply m).2.2 hm with ⟨pair, -, id, -, hm⟩ | ⟨e, -, he⟩ | hm
  · obtain ⟨record, -, rfl⟩ := List.mem_map.mp hm
    rfl
  · rw [he]
    rfl
  · obtain ⟨e, -, -, id, -, rfl⟩ := mem_proposeUnpaired.mp hm
    rfl

section Again

variable (h : d.WellFormed) (store) (park) (supply supply')
include h

/-- The id of an anchor entity is read back by the next run if a row of its family has it. -/
theorem WellFormed.anchor_id_again (he : e ∈ d.anchorEntities) :
    let ms := (d.propose (store.entityIdOf? park) park supply).1
    let after := ms.foldl Store.insert store
    ∃ id id', (anchorIds (store.entityIdOf? park) d supply).lookup e.externalId = some id ∧
      (anchorIds (after.entityIdOf? park) d supply').lookup e.externalId = some id' ∧
      ∀ m ∈ ms, m.key ∈ d.familyKeys e → after.row? m.key = some m → id' = id := by
  intro ms after
  obtain ⟨id, hid, hfirst⟩ := h.lookup_anchorIds (store.entityIdOf? park) supply he
  obtain ⟨id', hid', hfirst'⟩ := h.lookup_anchorIds (after.entityIdOf? park) supply' he
  refine ⟨id, id', hid, hid', fun m hm hk hstands ↦ ?_⟩
  have hproposes := h.proposes_lookup he (store.entityIdOf? park) park supply hid
  have hsome : (after.entityIdOf? park m.key).isSome := by
    rw [Store.entityIdOf?_of_row hstands (propose_park hm)]
    rfl
  have hagain := Store.findSome?_idWhere_inserts hfirst hproposes.id_eq
    (fun m hm ↦ decide_eq_true (propose_park hm)) ⟨m.key, hk, hsome⟩
  exact (hfirst' id hagain).symm

theorem WellFormed.propose_restated :
    let ms := (d.propose (store.entityIdOf? park) park supply).1
    let after := ms.foldl Store.insert store
    List.Forall₂ (Restates after) ms (d.propose (after.entityIdOf? park) park supply').1 := by
  intro ms after
  have hmem := mem_propose (store.entityIdOf? park) d park supply
  rw [show ms = _ from propose_fst _ d park supply, propose_fst]
  refine List.rel_append (List.rel_flatten (assign_forall₂ (fun _ outcome _ hsplit _ ↦ ?_) _)) ?_
  · have ho : outcome ∈ d.outcomes.map (·.2) := hsplit ▸ List.mem_append_right _ List.mem_cons_self
    obtain ⟨source, hs, rfl⟩ := List.mem_map.mp ho
    refine List.rel_append (forall₂_flatMap fun pair hp ↦ ?_)
      (assign_forall₂ (fun _ e _ _ _ ↦ ⟨rfl, rfl, fun hstands ↦ ?_⟩) _)
    · have hpair : pair ∈ d.pairs := List.mem_flatMap.mpr ⟨source, hs, hp⟩
      obtain ⟨id, id', hid, hid', hagain⟩ := h.anchor_id_again store park supply supply'
        (h.left_mem pair hpair)
      rw [hid, hid']
      refine ofMatch_restated fun m hm hstands ↦
        hagain m ((hmem m).1 pair hpair id hid hm) ?_ hstands
      rcases (mem_ofMatch (Subject.ofEntity_key park) hm).2.1 with hk | hk
      · exact hk ▸ List.mem_cons_self
      · rw [hk]
        exact List.mem_cons_of_mem _ (List.mem_map_of_mem (mem_partners.mpr ⟨hpair, rfl⟩))
    · have hknown := Store.entityIdOf?_of_row hstands rfl
      exact congrArg (Mapping.single · (.ofEntity park e)) (IdSupply.orNew_eq hknown)
  · simp only [proposeUnpaired, List.filterMap_eq_flatMap_toList]
    refine forall₂_flatMap fun e he ↦ ?_
    obtain ⟨id, id', hid, hid', hagain⟩ := h.anchor_id_again store park supply supply'
      (List.mem_filter.mp he).1
    rw [hid, hid']
    have hm : Mapping.single id (.ofEntity park e) ∈ ms :=
      (hmem _).2.1 (List.mem_filterMap.mpr ⟨e, he, by rw [hid]; rfl⟩)
    refine .cons ⟨rfl, rfl, fun hstands ↦ ?_⟩ .nil
    rw [hagain _ hm List.mem_cons_self hstands]

end Again

theorem WellFormed.settlesAtOnce (h : d.WellFormed) (hs : Sound store) (park : Uuid) :
    SettlesAtOnce (d.persist park) store := by
  intro supply supply'
  have hagain := h.propose_restated store park supply supply'
  rw [persist_eq hs, persist_eq (hs.inserts _)]
  exact ⟨⟨_, rfl, congrArg Except.ok hagain.length_eq.symm⟩, hs.inserts_again hagain⟩

end EntityDiscovery

namespace Hub

variable {σ : Type} [Network (StateM σ)] {store : Store}

/-- Whatever was stored and whatever sources reply, to persist a discovery again changes nothing, as
long as keys tell the parks apart, or the entities; those of the anchor also by external id. -/
theorem persist_settlesAtOnce (hs : Sound store) (hub : Hub (StateM σ)) (s : σ) :
    (∀ sink, (((hub.parkReplies.run s).1.flatMap parksOf).map Park.key).Nodup →
      SettlesAtOnce ((hub.discoverParks sink).run s).1.1.persist store) ∧
    ∀ ids park,
      let found := ((hub.discoverEntities ids).run s).1
      (((EntityDiscovery.lists ((hub.entityReplies ids).run s).1).flatMap (·.2)).map
        Entity.key).Nodup →
      (found.anchorEntities.map (·.externalId)).Nodup →
        SettlesAtOnce (found.persist park) store := by
  refine ⟨fun sink hk ↦ ?_, fun ids park hk hids ↦ ?_⟩
  · rw [discoverParks_found]
    exact (ParkDiscovery.ofReplies_tidy hub.parkRule hk).settlesAtOnce hs
  · exact (EntityDiscovery.ofReplies_wellFormed_of_keys hub.entityRule hk hids).settlesAtOnce hs park

/-- Two sources that share a park, and a ride in it. -/
def sharedRide : Script where
  parks source := .ok [{ externalId := "hansa", source := source, name := "Hansa-Park" }]
  entities source _ :=
    .ok [{ externalId := "1", source := source, name := "Nessie", entityType := .attraction }]
  live source _ := .error (.rejected source 404 "no live data")
  healthy _ := .ok true

def sharedRideHub : Hub (StateM World) :=
  ofAdapters {} (["themeparks-wiki", "queue-times"].map (sharedRide.adapter 1))

def hansaPark : List (String × String) :=
  [("themeparks-wiki", "hansa"), ("queue-times", "hansa")]

theorem persist_settlesAtOnce_sharedRide :
    Sound Reached.declaredStore ∧
      (((sharedRideHub.parkReplies.run {}).1.flatMap parksOf).map Park.key).Nodup ∧
      SettlesAtOnce ((sharedRideHub.discoverParks (.queue {})).run {}).1.1.persist
        Reached.declaredStore ∧
      let found := ((sharedRideHub.discoverEntities hansaPark).run {}).1
      (((EntityDiscovery.lists ((sharedRideHub.entityReplies hansaPark).run {}).1).flatMap
        (·.2)).map Entity.key).Nodup ∧
      (found.anchorEntities.map (·.externalId)).Nodup ∧
      SettlesAtOnce (found.persist ⟨7⟩) Reached.declaredStore := by
  have hranked : sharedRideHub.ranked = sharedRideHub.adapters :=
    ranked_eq_adapters (by decide)
  have hs : Sound Reached.declaredStore := Reached.reached_declaredStore.sound
  have hparks : (((sharedRideHub.parkReplies.run {}).1.flatMap parksOf).map Park.key).Nodup := by
    rw [parkReplies, hranked]
    decide
  have hentities : (((EntityDiscovery.lists ((sharedRideHub.entityReplies hansaPark).run
      {}).1).flatMap (·.2)).map Entity.key).Nodup := by
    rw [entityReplies, hranked]
    decide
  have hids : ((((sharedRideHub.discoverEntities hansaPark).run {}).1.anchorEntities).map
      (·.externalId)).Nodup := by
    rw [discoverEntities, hranked]
    decide
  have h := persist_settlesAtOnce hs sharedRideHub {}
  exact ⟨hs, hparks, h.1 _ hparks, hentities, hids, h.2 _ _ hentities hids⟩

section Clash

/-- A source that lists a ride of another one beside its own, under the same external id. -/
def twoNamesakes : Script where
  parks _ := .ok []
  entities source _ := .ok [
    { externalId := "1", source := source, name := "Taron", entityType := .attraction },
    { externalId := "1", source := "queue-times", name := "Nessie", entityType := .attraction }]
  live source _ := .error (.rejected source 404 "no live data")
  healthy _ := .ok true

def namesakesHub : Hub (StateM World) :=
  ofAdapters {} [twoNamesakes.adapter 1 "themeparks-wiki"]

/-- An operator has mapped the second one to a ride of another park. -/
def elsewhereStore : Store where
  rows := [⟨⟨2⟩, ⟨⟨"queue-times", "1"⟩, .attraction, some ⟨0xaa⟩⟩, 1, .manualOverride, true⟩]

theorem namesakes_found :
    ((namesakesHub.discoverEntities [("themeparks-wiki", "hansa")]).run {}).1 =
      { anchor := some "themeparks-wiki"
        anchorEntities := [
          { externalId := "1", source := "themeparks-wiki", name := "Taron"
            entityType := .attraction },
          { externalId := "1", source := "queue-times", name := "Nessie"
            entityType := .attraction }] } := by
  rw [discoverEntities, ranked_eq_adapters (by decide)]
  decide +kernel

/-- Two anchor entities with one external id have one place for their ids. The row of the second one
resists, so that each run draws a new id for it, and the row of the first one takes this id. -/
theorem namesakes_unsettled :
    Sound elsewhereStore ∧
      (((EntityDiscovery.lists ((namesakesHub.entityReplies [("themeparks-wiki", "hansa")]).run
        {}).1).flatMap (·.2)).map Entity.key).Nodup ∧
      ¬ SettlesAtOnce (((namesakesHub.discoverEntities
        [("themeparks-wiki", "hansa")]).run {}).1.persist ⟨0xbb⟩) elsewhereStore := by
  have hs : Sound elsewhereStore := ⟨rfl, by decide⟩
  refine ⟨hs, ?_, fun h ↦ ?_⟩
  · rw [entityReplies, ranked_eq_adapters (by decide)]
    decide
  · have hsame := (h Reached.counting ⟨Reached.counting.id, 2⟩).2
    rw [namesakes_found, EntityDiscovery.persist_eq hs,
      EntityDiscovery.persist_eq (hs.inserts _)] at hsame
    have hids := congrArg (·.idOf? ⟨"themeparks-wiki", "1"⟩) hsame
    revert hids
    decide +kernel

end Clash

end Hub

end ParkFusion
