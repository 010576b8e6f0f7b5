import Mathlib.Logic.Relation
import ParkFusion.Proofs.IdLinks
import ParkFusion.Proofs.SharedIds

namespace ParkFusion

open Mapping (Store)
open Mapping.Store (Sound)
open Matching

/-- A discovery that is persisted: of parks, or of the entities of a park. -/
inductive Persisting
  | parks (d : ParkDiscovery)
  | entities (d : EntityDiscovery) (park : Uuid)

namespace Persisting

variable {store : Store} {supply : IdSupply} {k k' : Key} {id : Uuid}

def families : Persisting → List (List Key)
  | parks d => d.families
  | entities d _ => d.families

def run (state : Store × IdSupply) : Persisting → Store × IdSupply
  | parks d => (d.persist state.1 state.2).2
  | entities d park => (d.persist park state.1 state.2).2

/-- The store and the supply after some discoveries, one after the other, from the empty store. -/
def replay (history : List Persisting) (supply : IdSupply) : Store × IdSupply :=
  history.foldl run ({}, supply)

theorem replay_concat (history : List Persisting) (last : Persisting) (supply : IdSupply) :
    replay (history ++ [last]) supply = last.run (replay history supply) :=
  List.foldl_concat ..

/-- A chain of families leads from one key to the other. -/
def Linked (history : List Persisting) : Key → Key → Prop :=
  Relation.ReflTransGen fun k k' ↦ ∃ p ∈ history, Key.Together p.families k k'

theorem Linked.mono {history history' : List Persisting} (hsub : history ⊆ history')
    (h : Linked history k k') : Linked history' k k' :=
  Relation.ReflTransGen.mono (fun _ _ ⟨p, hp, ht⟩ ↦ ⟨p, hsub hp, ht⟩) k k' h

theorem reached_replay (history : List Persisting) (supply : IdSupply) :
    Reached (replay history supply).1 (replay history supply).2 := by
  induction history using List.reverseRecOn with
  | nil => exact .empty supply
  | append_singleton history last ih =>
    rw [replay_concat]
    cases last with
    | parks d => exact .parks d ih
    | entities d park => exact .entities d park ih

/-- All that persisting a discovery does: it stores mappings whose ids were picked for its
families. -/
theorem run_apportions (h : Sound store) (supply : IdSupply) (p : Persisting) :
    ∃ known portions ms, (∀ key id, known key = some id → store.Carries key id) ∧
      Apportioned known supply portions ms ∧
      (∀ q ∈ portions, ∀ k ∈ q.keys, ∀ k' ∈ q.keys, Key.Together p.families k k') ∧
      p.run (store, supply) =
        (ms.foldl Store.insert store, (assign (Portion.pick known) supply portions).2) := by
  cases p with
  | parks d =>
    refine ⟨store.idOf?, d.bundles.map ParkDiscovery.Bundle.portion, d.proposals store supply,
      fun key id ↦ Store.carries_iff.mpr, d.proposals_apportioned store supply,
      fun q hq k hk k' hk' ↦ ?_, ?_⟩
    · obtain ⟨bundle, hb, rfl⟩ := List.mem_map.mp hq
      exact ParkDiscovery.bundle_together hb hk hk'
    · have hsupply := assign_map_snd (f := Portion.pick store.idOf?)
        (g := ParkDiscovery.Bundle.portion) (h := ParkDiscovery.proposeBundle store)
        (fun _ _ ↦ rfl) supply d.bundles
      rw [hsupply]
      exact congrArg Prod.snd (ParkDiscovery.persist_eq h d supply)
  | entities d park =>
    refine ⟨store.entityIdOf? park, d.portions, (d.propose (store.entityIdOf? park) park supply).1,
      fun key id hid ↦ ?_, d.propose_apportioned _ park supply,
      fun q hq k hk k' hk' ↦ EntityDiscovery.portion_together hq hk hk', ?_⟩
    · obtain ⟨row, hrow, hid⟩ := Option.map_eq_some_iff.mp hid
      exact ⟨row, (Option.filter_eq_some_iff.mp hrow).1, hid⟩
    · rw [← EntityDiscovery.propose_snd _ d park]
      exact congrArg Prod.snd (EntityDiscovery.persist_eq h d park supply)

theorem run_le (h : Sound store) (supply : IdSupply) (p : Persisting) :
    supply ≤ (p.run (store, supply)).2 := by
  obtain ⟨known, portions, ms, -, -, -, heq⟩ := run_apportions h supply p
  rw [heq]
  exact assign_le (Portion.pick_le known) supply portions

theorem replay_gave (history : List Persisting) (supply : IdSupply) :
    ∀ key id, (replay history supply).1.Carries key id → (replay history supply).2.Gave id := by
  induction history using List.reverseRecOn with
  | nil =>
    rintro key id ⟨row, hrow, -⟩
    cases hrow
  | append_singleton history last ih =>
    intro key id h
    obtain ⟨known, portions, ms, hknown, hms, -, heq⟩ :=
      run_apportions (reached_replay history supply).sound (replay history supply).2 last
    rw [replay_concat, heq] at h ⊢
    exact hms.gave hknown ih h

/-- One more discovery brings two keys under one id only if they are together in it, or if each of
them is together with a key that had this id already. -/
theorem run_shared (history : List Persisting) (last : Persisting) (supply : IdSupply)
    (hd : (replay (history ++ [last]) supply).2.Distinct)
    (h : (replay (history ++ [last]) supply).1.Carries k id)
    (h' : (replay (history ++ [last]) supply).1.Carries k' id) :
    Key.Together last.families k k' ∨
      ∃ j j', Key.Together last.families k j ∧ Key.Together last.families k' j' ∧
        (replay history supply).1.Carries j id ∧ (replay history supply).1.Carries j' id := by
  obtain ⟨known, portions, ms, hknown, hms, htogether, heq⟩ :=
    run_apportions (reached_replay history supply).sound (replay history supply).2 last
  rw [replay_concat, heq] at hd h h'
  rcases hms.shared hknown htogether hd (replay_gave history supply) h h' with
    ht | ⟨⟨j, hj, hid⟩, j', hj', hid'⟩
  · exact Or.inl ht
  · exact Or.inr ⟨j, j', hj, hj', hid, hid'⟩

theorem linked_of_shared (history : List Persisting) (supply : IdSupply)
    (hd : (replay history supply).2.Distinct) (h : (replay history supply).1.Carries k id)
    (h' : (replay history supply).1.Carries k' id) : Linked history k k' := by
  induction history using List.reverseRecOn generalizing k k' with
  | nil =>
    obtain ⟨row, hrow, -⟩ := h
    cases hrow
  | append_singleton history last ih =>
    have hlast : last ∈ history ++ [last] := List.mem_append_right _ List.mem_cons_self
    have hearlier : (replay history supply).2.Distinct := by
      rw [replay_concat] at hd
      exact hd.mono (run_le (reached_replay history supply).sound _ last)
    rcases run_shared history last supply hd h h' with ht | ⟨j, j', hj, hj', hid, hid'⟩
    · exact .single ⟨last, hlast, ht⟩
    · have hmiddle : Linked (history ++ [last]) j j' :=
        (ih hearlier hid hid').mono (List.subset_append_left _ _)
      have hfirst : Linked (history ++ [last]) k j := .single ⟨last, hlast, hj⟩
      exact (hfirst.trans hmiddle).tail ⟨last, hlast, hj'.symm⟩

/-- Two records come under one id only if they are together in the discovery, or through an id that
each family had before, which the discoveries so far link. -/
theorem separate_unless_linked (history : List Persisting) (last : Persisting) (supply : IdSupply)
    (hd : (replay (history ++ [last]) supply).2.Distinct)
    (h : (replay (history ++ [last]) supply).1.Carries k id)
    (h' : (replay (history ++ [last]) supply).1.Carries k' id) :
    Key.Together last.families k k' ∨
      ∃ j j', Key.Together last.families k j ∧ Key.Together last.families k' j' ∧
        (replay history supply).1.Carries j id ∧ (replay history supply).1.Carries j' id ∧
        Linked history j j' := by
  rcases run_shared history last supply hd h h' with ht | ⟨j, j', hj, hj', hid, hid'⟩
  · exact Or.inl ht
  · have hearlier : (replay history supply).2.Distinct := by
      rw [replay_concat] at hd
      exact hd.mono (run_le (reached_replay history supply).sound _ last)
    exact Or.inr ⟨j, j', hj, hj', hid, hid', linked_of_shared history supply hearlier hid hid'⟩

section Legoland

def legoland (source externalId : String) (continent : Option String) : Park :=
  { externalId := externalId, source := source, name := "Legoland", continent := continent }

def legolandRule : ParkRule :=
  parkRule 0.75 {}

/-- The first source is down, and the third does not tell where its park is. -/
def withoutFirst : ParkDiscovery :=
  .ofReplies legolandRule [
    ("themeparks-wiki", .error (.unavailable "themeparks-wiki" "down")),
    ("queue-times", .ok [legoland "queue-times" "q1" (some "Asia")]),
    ("wartezeiten", .ok [legoland "wartezeiten" "z1" none])]

def withFirst : ParkDiscovery :=
  .ofReplies legolandRule [
    ("themeparks-wiki", .ok [legoland "themeparks-wiki" "w1" (some "Europe"),
      legoland "themeparks-wiki" "w2" (some "Asia")]),
    ("queue-times", .ok [legoland "queue-times" "q1" (some "Asia")]),
    ("wartezeiten", .ok [legoland "wartezeiten" "z1" none])]

theorem legolands_distinct :
    (replay ([.parks withoutFirst] ++ [.parks withFirst]) Reached.counting).2.Distinct := by
  have hused :
      (replay ([.parks withoutFirst] ++ [.parks withFirst]) Reached.counting).2.used = 1 := by
    decide +kernel
  intro n hn k hk _
  rw [hused, Set.mem_Iio] at hn hk
  omega

theorem separate_unless_linked_legolands :
    let before := replay [.parks withoutFirst] Reached.counting
    let after := replay ([.parks withoutFirst] ++ [.parks withFirst]) Reached.counting
    let k : Key := ⟨"themeparks-wiki", "w1"⟩
    let k' : Key := ⟨"themeparks-wiki", "w2"⟩
    after.2.Distinct ∧ after.1.Carries k ⟨0⟩ ∧ after.1.Carries k' ⟨0⟩ ∧
      (Key.Together withFirst.families k k' ∨
        ∃ j j', Key.Together withFirst.families k j ∧ Key.Together withFirst.families k' j' ∧
          before.1.Carries j ⟨0⟩ ∧ before.1.Carries j' ⟨0⟩ ∧
          Linked [.parks withoutFirst] j j') := by
  intro before after k k'
  have h : after.1.Carries k ⟨0⟩ := Store.carries_iff.mpr (by decide +kernel)
  have h' : after.1.Carries k' ⟨0⟩ := Store.carries_iff.mpr (by decide +kernel)
  exact ⟨legolands_distinct, h, h',
    separate_unless_linked [.parks withoutFirst] (.parks withFirst) Reached.counting
      legolands_distinct h h'⟩

/-- Two anchors come under one id: each of them is matched to one of two parks that were taken for
one while the first source was down. -/
theorem anchors_share_id :
    let history : List Persisting := [.parks withoutFirst]
    let after := replay (history ++ [.parks withFirst]) Reached.counting
    after.2.Distinct ∧ (withFirst.occurrences.map Park.key).Nodup ∧
      ∃ g ∈ withFirst.groups, ∃ g' ∈ withFirst.groups,
        ¬ Key.Together withFirst.families g.anchor.key g'.anchor.key ∧
        ∃ id, after.1.Carries g.anchor.key id ∧ after.1.Carries g'.anchor.key id := by
  refine ⟨legolands_distinct, by decide +kernel, ?_⟩
  have hids : ∃ g ∈ withFirst.groups, ∃ g' ∈ withFirst.groups, g.anchor.key ≠ g'.anchor.key ∧
      (∀ family ∈ withFirst.families, ¬ (g.anchor.key ∈ family ∧ g'.anchor.key ∈ family)) ∧
      (replay ([.parks withoutFirst] ++ [.parks withFirst]) Reached.counting).1.idOf?
        g.anchor.key = some ⟨0⟩ ∧
      (replay ([.parks withoutFirst] ++ [.parks withFirst]) Reached.counting).1.idOf?
        g'.anchor.key = some ⟨0⟩ := by decide +kernel
  obtain ⟨g, hg, g', hg', hne, hapart, hid, hid'⟩ := hids
  refine ⟨g, hg, g', hg', ?_, ⟨0⟩, Store.carries_iff.mpr hid, Store.carries_iff.mpr hid'⟩
  rintro (he | ⟨family, hf, ht⟩)
  · exact hne he
  · exact hapart family hf ht

end Legoland

end Persisting

end ParkFusion
