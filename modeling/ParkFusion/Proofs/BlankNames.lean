import ParkFusion.Proofs.EffectiveOrder
import ParkFusion.Proofs.MergeConservation
import ParkFusion.Proofs.Similarity

namespace ParkFusion.Merge

open Sighting

/-- Whether any two of the sightings have names that are wholly alike. -/
def AllAlike (family : List Sighting) : Prop :=
  family.Pairwise fun s t ↦ Name.similarity s.entity.name t.entity.name = 1

section Alike

variable {all family : List Sighting} {ordered : List (String × LiveReport)} {key : String}

theorem allAlike_of_length (h : family.length ≤ 1) : AllAlike family := by
  obtain _ | ⟨s, _ | ⟨t, rest⟩⟩ := family
  · exact .nil
  · exact List.pairwise_singleton _ s
  · simp at h

theorem similarity_of_mem_firsts {s t : Sighting} (hs : s ∈ firsts all key)
    (ht : t ∈ firsts all key) :
    Name.similarity s.entity.name t.entity.name = if key = "" then 0 else 1 := by
  have hsk : Name.key s.entity.name = key := (mem_firsts.mp hs).2.2
  have htk : Name.key t.entity.name = key := (mem_firsts.mp ht).2.2
  rw [Name.similarity_of_key_eq (hsk.trans htk.symm), hsk]

theorem allAlike_firsts (hkey : key ≠ "") : AllAlike (firsts all key) := by
  refine List.pairwise_of_forall_mem_list fun s hs t ht ↦ ?_
  rw [similarity_of_mem_firsts hs ht, if_neg hkey]

/-- Blank names are not even like themselves. -/
theorem allAlike_blank_iff : AllAlike (firsts all "") ↔ (firsts all "").length ≤ 1 := by
  refine ⟨fun halike ↦ ?_, allAlike_of_length⟩
  match hfirsts : firsts all "" with
  | [] => exact Nat.zero_le 1
  | [s] => exact Nat.le_refl 1
  | s :: t :: rest =>
    have hs : s ∈ firsts all "" := hfirsts ▸ List.mem_cons_self
    have ht : t ∈ firsts all "" := hfirsts ▸ List.mem_cons_of_mem s List.mem_cons_self
    rw [AllAlike, hfirsts] at halike
    have hone := (List.pairwise_cons.mp halike).1 t List.mem_cons_self
    rw [similarity_of_mem_firsts hs ht, if_pos rfl] at hone
    exact absurd hone (by decide)

theorem families_allAlike_iff (h : (ordered.map (·.1)).Nodup) :
    (∀ family ∈ families (sightings ordered), AllAlike family) ↔
      (ordered.filter (reports "")).length ≤ 1 := by
  have hlength : (firsts (sightings ordered) "").length = (ordered.filter (reports "")).length := by
    simpa using congrArg List.length (firsts_sources h "")
  rw [← hlength, ← allAlike_blank_iff]
  constructor
  · intro halike
    by_cases hblank : firsts (sightings ordered) "" = []
    · rw [hblank]
      exact .nil
    · obtain ⟨s, hs⟩ := List.exists_mem_of_ne_nil _ hblank
      obtain ⟨hsa, -, hkey⟩ := mem_firsts.mp hs
      exact halike _ (hkey ▸ firsts_mem_families hsa)
  · intro hblank family hfamily
    obtain ⟨s, -, rfl⟩ := List.mem_map.mp hfamily
    unfold Merge.family
    split
    · by_cases hkey : s.key = ""
      · rwa [hkey]
      · exact allAlike_firsts hkey
    · exact allAlike_of_length (Nat.le_refl 1)

end Alike

/-- What is merged into one entity has names that are wholly alike, unless several sources have an
entity of whose name nothing is left: these are merged, too, though such names are like nothing. -/
theorem resolve_joinsAlike_iff (policy : Policy) (ranking : List String)
    {entries : List (String × LiveReport)} (h : (entries.map (·.1)).Nodup) (hne : entries ≠ []) :
    ∃ ordered resolution, ordered.Perm entries ∧
      resolve policy ranking entries = .ok resolution ∧
      List.Forall₂ (Makes policy.rounding) (families (sightings ordered))
        resolution.report.entities ∧
      ((∀ family ∈ families (sightings ordered), AllAlike family) ↔
        (entries.filter (reports "")).length ≤ 1) := by
  obtain ⟨first, rest, ho⟩ := exists_order_cons h hne (ranking ++ policy.priority)
  have hperm : (order (ranking ++ policy.priority) entries).Perm entries := order_perm h
  rw [ho] at hperm
  have hdistinct : ((first :: rest).map (·.1)).Nodup := (hperm.map _).nodup_iff.mpr h
  refine ⟨_, _, hperm, resolve_of_order ho,
    (resolveOrdered_conserves policy first.2 (first :: rest) hdistinct).made, ?_⟩
  rw [families_allAlike_iff hdistinct, (hperm.filter _).length_eq]

/-- Two sources that each have one entity, with nothing but signs for a name. -/
def blankReports : List (String × LiveReport) := [
  ("themeparks-wiki", {
    source := "themeparks-wiki", parkExternalId := "w", fetchedAt := .epoch
    entities := [ride "themeparks-wiki" "1" "!!!"] }),
  ("queue-times", {
    source := "queue-times", parkExternalId := "56", fetchedAt := .epoch
    entities := [ride "queue-times" "7" "???"] })]

theorem blankNames_joined :
    ((resolve {} [] blankReports).toOption.map fun resolution ↦
      resolution.report.entities.map (·.provenance)) =
        some [["themeparks-wiki", "queue-times"]] ∧
      Name.similarity "!!!" "???" = 0 := by
  decide +kernel

end ParkFusion.Merge
