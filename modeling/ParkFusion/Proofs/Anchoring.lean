import ParkFusion.Proofs.SharedIds
import ParkFusion.Proofs.SilentSources

namespace ParkFusion

open Matching

namespace EntityDiscovery

/-- The first of some lists that has entities is the anchor's, and every other one that has entities
is matched to it. -/
def AnchorsOnEntities (rule : EntityRule) (lists : List (String × List Entity))
    (d : EntityDiscovery) : Prop :=
  ∀ first, lists.find? (!·.2.isEmpty) = some first →
    d.anchor = some first.1 ∧ d.anchorEntities = first.2 ∧
      ∀ entry ∈ lists, entry.2 ≠ [] → entry.1 ≠ first.1 →
        (entry.1, rule.pairOff first.2 entry.2) ∈ d.outcomes

variable {rule : EntityRule} {replies : List (String × Except Failure (List Entity))}
variable {first : String × List Entity} {others : List (String × List Entity)}

/-- Nothing is matched to an anchor without entities. -/
theorem pairs_of_empty_anchor (h : lists replies = first :: others) (hempty : first.2 = []) :
    (ofReplies rule replies).pairs = [] := by
  obtain ⟨-, -, houtcomes⟩ := ofReplies_of_lists rule h
  rw [hempty] at houtcomes
  refine List.flatMap_eq_nil_iff.mpr fun outcome ho ↦ ?_
  obtain ⟨entry, -, rfl⟩ := List.mem_map.mp (houtcomes.subset ho)
  rfl

/-- Whoever answers first is the anchor, with or without entities. -/
theorem ofReplies_anchorsOnEntities_iff :
    AnchorsOnEntities rule (lists replies) (ofReplies rule replies) ↔
      ∀ first, (lists replies).head? = some first → first.2 = [] →
        ∀ entry ∈ lists replies, entry.2 = [] := by
  cases hlists : lists replies with
  | nil => exact ⟨fun _ _ _ _ _ he ↦ (List.not_mem_nil he).elim, fun _ _ hfind ↦ by cases hfind⟩
  | cons first others =>
    obtain ⟨hanchor, hentities, houtcomes⟩ := ofReplies_of_lists rule hlists
    constructor
    · intro hanchors _ hhead hempty entry he
      cases hhead
      by_contra hne
      have hsome : ((first :: others).find? (!·.2.isEmpty)).isSome :=
        List.find?_isSome.mpr ⟨entry, he, by simpa using hne⟩
      obtain ⟨found, hfound⟩ := Option.isSome_iff_exists.mp hsome
      have hfilled : found.2 ≠ [] := by simpa using List.find?_some hfound
      exact hfilled ((hanchors found hfound).2.1.symm.trans (hentities.trans hempty))
    · intro hempties found hfound
      have hfilled : found.2 ≠ [] := by simpa using List.find?_some hfound
      have hfirst : first.2 ≠ [] := fun hempty ↦
        hfilled (hempties first rfl hempty found (List.mem_of_find?_eq_some hfound))
      rw [List.find?_cons_of_pos (by simpa using hfirst)] at hfound
      cases hfound
      refine ⟨hanchor, hentities, fun entry he _ hne ↦ ?_⟩
      have hother := (List.mem_cons.mp he).resolve_left fun h ↦ hne (congrArg Prod.fst h)
      exact houtcomes.symm.subset (List.mem_map_of_mem hother)

end EntityDiscovery

namespace Hub

open EntityDiscovery

variable {σ : Type}

/-- The answers stand by rank, and the first one makes the anchor. This is the first source with
entities unless one that ranks before it answers that it has none, and then nothing is matched. -/
theorem discoverEntities_anchors (hub : Hub (StateM σ)) (ids : List (String × String)) (s : σ) :
    let answers := EntityDiscovery.lists ((hub.entityReplies ids).run s).1
    let found := ((hub.discoverEntities ids).run s).1
    (answers.map (·.1)).Sublist hub.ranking ∧
      (AnchorsOnEntities hub.entityRule answers found ↔
        ∀ first, answers.head? = some first → first.2 = [] → ∀ entry ∈ answers, entry.2 = []) ∧
      ∀ first, answers.head? = some first → first.2 = [] →
        found.anchor = some first.1 ∧ found.anchorEntities = [] ∧ found.pairs = [] := by
  intro answers found
  refine ⟨hub.lists_ids_ranked ids s, ofReplies_anchorsOnEntities_iff, fun first hhead hempty ↦ ?_⟩
  obtain ⟨others, hlists⟩ := List.head?_eq_some_iff.mp hhead
  obtain ⟨hanchor, hentities, -⟩ := ofReplies_of_lists hub.entityRule hlists
  exact ⟨hanchor, hentities.trans hempty, pairs_of_empty_anchor hlists hempty⟩

/-- The source that ranks first lists no entities of the park. The other two share a ride. -/
def emptyPrimary : Script where
  parks _ := .ok []
  entities source _ :=
    .ok (if source = "themeparks-wiki" then [] else [Reached.taron source])
  live source _ := .error (.rejected source 404 "no live data")
  healthy _ := .ok true

def threeIds : List (String × String) :=
  [("themeparks-wiki", "w"), ("queue-times", "q"), ("wartezeiten", "z")]

def scriptedHub (script : Script) : Hub (StateM World) :=
  ofAdapters {} (threeIds.map fun entry ↦ script.adapter 1 entry.1)

/-- An answer without entities keeps the others apart. An answer that fails does not. -/
theorem emptyPrimary_unmatched :
    let answers := EntityDiscovery.lists (((scriptedHub emptyPrimary).entityReplies threeIds).run {}).1
    let found := (((scriptedHub emptyPrimary).discoverEntities threeIds).run {}).1
    let fallback := (((scriptedHub primaryOutage).discoverEntities threeIds).run {}).1
    (∃ answer ∈ answers, answer.2 ≠ []) ∧ found.anchor = some "themeparks-wiki" ∧
      found.pairs = [] ∧ ¬ AnchorsOnEntities (scriptedHub emptyPrimary).entityRule answers found ∧
      fallback.anchor = some "queue-times" ∧ fallback.pairs ≠ [] := by
  intro answers found fallback
  have hanswers : answers = [("themeparks-wiki", []), ("queue-times", [Reached.taron "queue-times"]),
      ("wartezeiten", [Reached.taron "wartezeiten"])] := by
    simp only [answers]
    rw [entityReplies, ranked_eq_adapters (by decide)]
    decide
  have hfallback : fallback.anchor = some "queue-times" ∧ fallback.pairs ≠ [] := by
    simp only [fallback]
    rw [discoverEntities, ranked_eq_adapters (by decide)]
    decide +kernel
  have hfilled : ("queue-times", [Reached.taron "queue-times"]) ∈ answers := by
    rw [hanswers]
    exact List.mem_cons_of_mem _ List.mem_cons_self
  have hhead : answers.head? = some ("themeparks-wiki", []) := by rw [hanswers]; rfl
  obtain ⟨-, hiff, hempty⟩ := discoverEntities_anchors (scriptedHub emptyPrimary) threeIds {}
  obtain ⟨hanchor, -, hpairs⟩ := hempty _ hhead rfl
  refine ⟨⟨_, hfilled, List.cons_ne_nil _ _⟩, hanchor, hpairs, fun hanchors ↦ ?_, hfallback⟩
  exact List.cons_ne_nil _ _ (hiff.mp hanchors _ hhead rfl _ hfilled)

end Hub

end ParkFusion
