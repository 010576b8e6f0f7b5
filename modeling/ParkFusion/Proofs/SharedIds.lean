import ParkFusion.Proofs.EntityProposals

namespace ParkFusion

open Mapping (Store)
open Mapping.Store (Sound Unified)
open Matching

/-- The stores to which any discoveries lead from the empty one, each with the ids that are left. -/
inductive Reached : Store → IdSupply → Prop
  | empty (supply : IdSupply) : Reached {} supply
  | parks {store : Store} {supply : IdSupply} (d : ParkDiscovery) : Reached store supply →
      Reached (d.persist store supply).2.1 (d.persist store supply).2.2
  | entities {store : Store} {supply : IdSupply} (d : EntityDiscovery) (park : Uuid) :
      Reached store supply →
      Reached (d.persist park store supply).2.1 (d.persist park store supply).2.2

variable {store : Store} {supply : IdSupply}

theorem ParkDiscovery.persist_sound (h : Sound store) (d : ParkDiscovery) (supply : IdSupply) :
    Sound (d.persist store supply).2.1 := by
  rw [persist_eq h]
  exact h.inserts _

theorem EntityDiscovery.persist_sound (h : Sound store) (d : EntityDiscovery) (park : Uuid)
    (supply : IdSupply) : Sound (d.persist park store supply).2.1 := by
  rw [persist_eq h]
  exact h.inserts _

theorem Reached.sound (h : Reached store supply) : Sound store := by
  induction h with
  | empty => exact .empty
  | parks d _ ih => exact d.persist_sound ih _
  | entities d park _ ih => exact d.persist_sound ih park _

theorem ParkDiscovery.persist_unified {d : ParkDiscovery} (hs : Sound store) (h : d.WellFormed)
    (supply : IdSupply) :
    (∃ count, (d.persist store supply).1 = .ok count) ∧ ∀ g ∈ d.groups,
      Unified store (d.persist store supply).2.1 store.idOf? (g.members.map Park.key)
        (declaredKeys Park.key g.pairs) := by
  rw [persist_eq hs]
  refine ⟨⟨_, rfl⟩, fun g hg ↦ ?_⟩
  obtain ⟨id, hfirst, hproposes⟩ := h.proposes hg store supply
  exact ⟨id, hfirst, hproposes.settled store⟩

theorem EntityDiscovery.persist_unified {d : EntityDiscovery} (hs : Sound store)
    (h : d.WellFormed) (park : Uuid) (supply : IdSupply) :
    (∃ count, (d.persist park store supply).1 = .ok count) ∧ ∀ e ∈ d.anchorEntities,
      Unified store (d.persist park store supply).2.1 (store.entityIdOf? park) (d.familyKeys e)
        (declaredKeys Entity.key (d.partners e)) := by
  rw [persist_eq hs]
  refine ⟨⟨_, rfl⟩, fun e he ↦ ?_⟩
  obtain ⟨id, hfirst, hproposes⟩ := h.proposes he (store.entityIdOf? park) park supply
  exact ⟨id, hfirst, hproposes.settled store⟩

/-- Whatever was stored before, the members of a group, and an anchor entity and those matched to
it, come under one id, so far as no verified row resists. -/
theorem Reached.persist_unifies (h : Reached store supply) :
    (∀ d : ParkDiscovery, d.WellFormed →
      (∃ count, (d.persist store supply).1 = .ok count) ∧ ∀ g ∈ d.groups,
        Unified store (d.persist store supply).2.1 store.idOf? (g.members.map Park.key)
          (declaredKeys Park.key g.pairs)) ∧
    ∀ (d : EntityDiscovery) (park : Uuid), d.WellFormed →
      (∃ count, (d.persist park store supply).1 = .ok count) ∧ ∀ e ∈ d.anchorEntities,
        Unified store (d.persist park store supply).2.1 (store.entityIdOf? park) (d.familyKeys e)
          (declaredKeys Entity.key (d.partners e)) :=
  ⟨fun _ hd ↦ ParkDiscovery.persist_unified h.sound hd supply,
    fun _ park hd ↦ EntityDiscovery.persist_unified h.sound hd park supply⟩

namespace Reached

def counting : IdSupply :=
  ⟨fun n ↦ ⟨BitVec.ofNat 128 n⟩, 0⟩

def moviePark (source : String) : Park :=
  { externalId := "1", source := source, name := "Movie Park" }

/-- An operator declares the parks of two sources identical. That of the third is not matched. -/
def declaredDiscovery : ParkDiscovery where
  crossMatched := [⟨moviePark "queue-times",
    [⟨moviePark "queue-times", moviePark "wartezeiten", 1, .manualOverride⟩]⟩]
  singleSource := [moviePark "themeparks-wiki"]

def rematchedDiscovery : ParkDiscovery where
  fullyMatched := [⟨moviePark "themeparks-wiki",
    [⟨moviePark "themeparks-wiki", moviePark "queue-times", 0.8, .fuzzy⟩]⟩]
  singleSource := [moviePark "wartezeiten"]

def declaredStore : Store :=
  (declaredDiscovery.persist {} counting).2.1

def declaredSupply : IdSupply :=
  (declaredDiscovery.persist {} counting).2.2

theorem reached_declaredStore : Reached declaredStore declaredSupply :=
  .parks declaredDiscovery (.empty counting)

def taron (source : String) : Entity :=
  { externalId := "1", source := source, name := "Taron", entityType := .attraction }

def taronDiscovery : EntityDiscovery where
  anchor := some "themeparks-wiki"
  anchorEntities := [taron "themeparks-wiki"]
  outcomes := [("queue-times",
    { matched := [⟨taron "themeparks-wiki", taron "queue-times", 1, .fuzzy⟩] })]

theorem rematchedDiscovery_wellFormed : rematchedDiscovery.WellFormed :=
  ⟨by decide, by decide, by decide⟩

theorem taronDiscovery_wellFormed : taronDiscovery.WellFormed :=
  ⟨by decide, by decide, by decide⟩

theorem persist_unifies_declaredStore :
    Reached declaredStore declaredSupply ∧
    (rematchedDiscovery.WellFormed ∧
      (∃ count, (rematchedDiscovery.persist declaredStore declaredSupply).1 = .ok count) ∧
      ∀ g ∈ rematchedDiscovery.groups,
        Unified declaredStore (rematchedDiscovery.persist declaredStore declaredSupply).2.1
          declaredStore.idOf? (g.members.map Park.key) (declaredKeys Park.key g.pairs)) ∧
    taronDiscovery.WellFormed ∧
      (∃ count, (taronDiscovery.persist ⟨7⟩ declaredStore declaredSupply).1 = .ok count) ∧
      ∀ e ∈ taronDiscovery.anchorEntities,
        Unified declaredStore (taronDiscovery.persist ⟨7⟩ declaredStore declaredSupply).2.1
          (declaredStore.entityIdOf? ⟨7⟩) (taronDiscovery.familyKeys e)
          (declaredKeys Entity.key (taronDiscovery.partners e)) := by
  have h := persist_unifies reached_declaredStore
  exact ⟨reached_declaredStore,
    ⟨rematchedDiscovery_wellFormed, h.1 _ rematchedDiscovery_wellFormed⟩,
    taronDiscovery_wellFormed, h.2 _ ⟨7⟩ taronDiscovery_wellFormed⟩

/-- A group of which one row at most is verified comes under two ids: the id is taken from the row
that is not verified, and the other one resists. -/
theorem verified_row_apart :
    Reached declaredStore declaredSupply ∧
      (∀ n < 3, ∀ k < 3, declaredSupply.id n = declaredSupply.id k → n = k) ∧
      rematchedDiscovery.WellFormed ∧
      ∃ g ∈ rematchedDiscovery.groups,
        (∀ p ∈ g.members, ∀ q ∈ g.members, ∀ row ∈ declaredStore.row? p.key,
          ∀ row' ∈ declaredStore.row? q.key, row.verified → row'.verified → row.id = row'.id) ∧
        ¬ ∃ id, ∀ p ∈ g.members,
          (rematchedDiscovery.persist declaredStore declaredSupply).2.1.Carries p.key id := by
  refine ⟨reached_declaredStore, by decide, rematchedDiscovery_wellFormed,
    ⟨moviePark "themeparks-wiki",
      [⟨moviePark "themeparks-wiki", moviePark "queue-times", 0.8, .fuzzy⟩]⟩,
    List.mem_cons_self, by decide +kernel, ?_⟩
  rintro ⟨id, h⟩
  have hwiki := Store.carries_iff.mp (h (moviePark "themeparks-wiki") (by decide))
  have hqueue := Store.carries_iff.mp (h (moviePark "queue-times") (by decide))
  have hne : (rematchedDiscovery.persist declaredStore declaredSupply).2.1.idOf?
      (moviePark "themeparks-wiki").key ≠
        (rematchedDiscovery.persist declaredStore declaredSupply).2.1.idOf?
          (moviePark "queue-times").key := by decide +kernel
  exact hne (hwiki.trans hqueue.symm)

end Reached

end ParkFusion
