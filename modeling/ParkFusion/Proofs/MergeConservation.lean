import ParkFusion.Proofs.Families

namespace ParkFusion.Merge

open Sighting

/-- The merged entity that a list of sightings comes to, the first of them having the first word. -/
def Makes (rounding : UInt32) (sightings : List Sighting) (e : LiveEntity) : Prop :=
  ∃ key s rest, sightings = s :: rest ∧
    e = (rest.foldl Merged.takeIn (seeded key s)).finish rounding

/-- Whether the report has an entity of the name. -/
def reports (key : String) (entry : String × LiveReport) : Bool :=
  entry.2.entities.any fun e ↦ Name.key e.name = key

/-- How merged entities share out the entities of the reports that they are made from. Every family
of sightings makes one entity, and every sighting is in one family. -/
structure Conserves (rounding : UInt32) (ordered : List (String × LiveReport))
    (families : List (List Sighting)) (merged : List LiveEntity) : Prop where
  distinct : (sightings ordered).Nodup
  once : families.flatten.Perm (sightings ordered)
  made : List.Forall₂ (Makes rounding) families merged
  provenance : merged.map (·.provenance) = families.map (·.map (·.source))
  total : (merged.map (·.provenance.length)).sum = (ordered.map (·.2.entities.length)).sum
  apart : ∀ f ∈ families, f.Pairwise fun s t ↦ s.source ≠ t.source ∧ s.key = t.key
  inOrder : ∀ f ∈ families, f.Sublist (sightings ordered)
  opened : (families.filterMap (·.head?)).Sublist (sightings ordered)
  /-- The first entities of a name, one of every source that reports it, are a family. -/
  together : ∀ s ∈ sightings ordered, firsts (sightings ordered) s.key ∈ families ∧
    (firsts (sightings ordered) s.key).map (·.source) =
      (ordered.filter (reports s.key)).map (·.1)
  alone : ∀ s ∈ sightings ordered, ¬ s.IsFirst (sightings ordered) → [s] ∈ families

section Sightings

variable {all : List Sighting} {ordered : List (String × LiveReport)}
variable {entry : String × LiveReport} {s : Sighting} {key : String}

theorem firsts_apart (h : all.Pairwise Precedes) (key : String) :
    (firsts all key).Pairwise fun s t ↦ s.source ≠ t.source ∧ s.key = t.key := by
  refine (h.filter _).imp_of_mem fun {s t} hs ht hp ↦ ?_
  obtain ⟨hsa, -, hsk⟩ := mem_firsts.mp hs
  obtain ⟨-, htf, htk⟩ := mem_firsts.mp ht
  refine ⟨fun hsource ↦ ?_, hsk.trans htk.symm⟩
  have hle := htf s hsa hsource (hsk.trans htk.symm)
  have hlt := hp hsource
  omega

theorem family_apart (h : all.Pairwise Precedes) (s : Sighting) :
    (family all s).Pairwise fun s t ↦ s.source ≠ t.source ∧ s.key = t.key := by
  unfold family
  split
  · exact firsts_apart h s.key
  · exact List.pairwise_singleton _ s

theorem firsts_mem_families (hs : s ∈ all) : firsts all s.key ∈ families all := by
  obtain ⟨u, hu, -⟩ := exists_first hs
  obtain ⟨v, hv, hvf, hvk⟩ := exists_founder_of_firsts hu
  refine List.mem_map.mpr ⟨v, hv, ?_⟩
  rw [family, if_pos hvf, hvk]

theorem singleton_mem_families (hs : s ∈ all) (hf : ¬ s.IsFirst all) : [s] ∈ families all := by
  have hfamily : family all s = [s] := if_neg hf
  refine List.mem_map.mpr ⟨s, mem_founders.mpr ⟨hs, ?_⟩, hfamily⟩
  rw [Founds, hfamily]
  rfl

theorem heads_eq_founders (all : List Sighting) :
    (families all).filterMap (·.head?) = founders all := by
  rw [families, List.filterMap_map]
  refine (List.filterMap_congr fun s hs ↦ ?_).trans List.filterMap_some
  exact (mem_founders.mp hs).2

theorem reports_iff : reports key entry ↔ ∃ s ∈ sightingsOf entry, s.key = key := by
  simp only [reports, List.any_eq_true, decide_eq_true_eq]
  constructor
  · rintro ⟨e, he, hkey⟩
    have hzip : e ∈ entry.2.entities.zipIdx.map Prod.fst := by rwa [List.zipIdx_map_fst]
    obtain ⟨x, hx, rfl⟩ := List.mem_map.mp hzip
    exact ⟨_, List.mem_map_of_mem hx, hkey⟩
  · rintro ⟨s, hs, hkey⟩
    obtain ⟨x, hx, rfl⟩ := List.mem_map.mp hs
    have hfst : x.1 ∈ entry.2.entities.zipIdx.map Prod.fst := List.mem_map_of_mem hx
    rw [List.zipIdx_map_fst] at hfst
    exact ⟨x.1, hfst, hkey⟩

theorem sightingsOf_sublist (he : entry ∈ ordered) :
    (sightingsOf entry).Sublist (sightings ordered) := by
  rw [sightings, List.flatMap_def]
  exact List.sublist_flatten_of_mem (List.mem_map_of_mem he)

theorem mem_sightingsOf (h : (ordered.map (·.1)).Nodup) (he : entry ∈ ordered)
    (hs : s ∈ sightings ordered) (hsource : s.source = entry.1) : s ∈ sightingsOf entry := by
  obtain ⟨e, heo, hse⟩ := List.mem_flatMap.mp hs
  have hid : e.1 = entry.1 := (sightingsOf_source hse).symm.trans hsource
  have heq : e = entry := List.inj_on_of_nodup_map h heo he hid
  exact heq ▸ hse

/-- Of sightings that all have the same source and no two of which have the same, there is at most
one. -/
theorem map_source_eq {found : List Sighting} {source : String} {P : Prop} [Decidable P]
    (hsource : ∀ s ∈ found, s.source = source) (hne : P ↔ ∃ s, s ∈ found)
    (hapart : found.Pairwise fun s t ↦ s.source ≠ t.source) :
    found.map (·.source) = if P then [source] else [] := by
  cases found with
  | nil =>
    have hnone : ¬ P := fun hp ↦ by simpa using hne.mp hp
    rw [if_neg hnone]
    rfl
  | cons s rest =>
    rw [if_pos (hne.mpr ⟨s, List.mem_cons_self⟩)]
    cases rest with
    | nil => rw [List.map_singleton, hsource s List.mem_cons_self]
    | cons t rest =>
      have ht : t ∈ s :: t :: rest := List.mem_cons_of_mem s List.mem_cons_self
      have hst := (List.pairwise_cons.mp hapart).1 t List.mem_cons_self
      exact absurd ((hsource s List.mem_cons_self).trans (hsource t ht).symm) hst

theorem first_of_entry (h : (ordered.map (·.1)).Nodup) (he : entry ∈ ordered) (key : String) :
    ((sightingsOf entry).filter fun s ↦ s.IsFirst (sightings ordered) ∧ s.key = key).map
      (·.source) = if reports key entry then [entry.1] else [] := by
  have hmem : ∀ s, s ∈ (sightingsOf entry).filter
      (fun s ↦ s.IsFirst (sightings ordered) ∧ s.key = key) ↔
      s ∈ sightingsOf entry ∧ s.IsFirst (sightings ordered) ∧ s.key = key := by
    simp
  refine map_source_eq (fun s hs ↦ sightingsOf_source ((hmem s).mp hs).1) ?_ ?_
  · rw [reports_iff]
    constructor
    · rintro ⟨s, hs, hkey⟩
      obtain ⟨u, hu, husource⟩ := exists_first ((sightingsOf_sublist he).subset hs)
      obtain ⟨hua, huf, huk⟩ := mem_firsts.mp hu
      have hue := mem_sightingsOf h he hua (husource.trans (sightingsOf_source hs))
      exact ⟨u, (hmem u).mpr ⟨hue, huf, huk.trans hkey⟩⟩
    · rintro ⟨s, hs⟩
      obtain ⟨hse, -, hkey⟩ := (hmem s).mp hs
      exact ⟨s, hse, hkey⟩
  · have hsub := (sightingsOf_sublist he).filter
      fun s ↦ s.IsFirst (sightings ordered) ∧ s.key = key
    exact ((firsts_apart (sightings_precedes h) key).sublist hsub).imp And.left

/-- Every source that reports the name has one first entity of it, and no other source has one. -/
theorem firsts_sources (h : (ordered.map (·.1)).Nodup) (key : String) :
    (firsts (sightings ordered) key).map (·.source) =
      (ordered.filter (reports key)).map (·.1) := by
  have hentries : ∀ entries ⊆ ordered,
      ((sightings entries).filter fun s ↦ s.IsFirst (sightings ordered) ∧ s.key = key).map
        (·.source) = (entries.filter (reports key)).map (·.1) := by
    intro entries hsub
    induction entries with
    | nil => rfl
    | cons entry entries ih =>
      have hrest := ih fun e he ↦ hsub (List.mem_cons_of_mem entry he)
      rw [sightings_cons, List.filter_append, List.map_append,
        first_of_entry h (hsub List.mem_cons_self), List.filter_cons, hrest]
      split <;> rfl
  exact hentries ordered fun e he ↦ he

end Sightings

section Outputs

variable {policy : Policy} {ordered : List (String × LiveReport)}

theorem gathered_makes {all : List Sighting} {s : Sighting} (h : Founds all s)
    (rounding : UInt32) : Makes rounding (family all s) ((gathered all s).finish rounding) :=
  ⟨_, s, (family all s).tail, family_of_founds h, rfl⟩

theorem entities_eq (policy : Policy) (richest : LiveReport) (h : (ordered.map (·.1)).Nodup) :
    (resolveOrdered policy richest ordered).report.entities =
      (founders (sightings ordered)).map fun s ↦
        (gathered (sightings ordered) s).finish policy.rounding := by
  have hmerged : mergeEntities ordered =
      (founders (sightings ordered)).map (gathered (sightings ordered)) := by
    rw [mergeEntities_eq_foldl, foldl_add (sightings_precedes h)]
  change (mergeEntities ordered).map (·.finish policy.rounding) = _
  rw [hmerged, List.map_map]
  rfl

/-- In whatever order the sources are merged, every entity of theirs goes into one merged entity: the
first ones of a name into one, and those that a source repeats each into one of its own. -/
theorem resolveOrdered_conserves (policy : Policy) (richest : LiveReport)
    (ordered : List (String × LiveReport)) (h : (ordered.map (·.1)).Nodup) :
    Conserves policy.rounding ordered (families (sightings ordered))
      (resolveOrdered policy richest ordered).report.entities := by
  have hprecedes := sightings_precedes h
  have hnodup := nodup_of_precedes hprecedes
  have hperm := families_flatten_perm hnodup
  have hprovenance : (resolveOrdered policy richest ordered).report.entities.map (·.provenance) =
      (families (sightings ordered)).map (·.map (·.source)) := by
    rw [entities_eq policy richest h, families, List.map_map, List.map_map]
    exact List.map_congr_left fun s hs ↦ gathered_provenance (mem_founders.mp hs).2
  refine ⟨hnodup, hperm, ?_, hprovenance, ?_, ?_, ?_, ?_, ?_, ?_⟩
  · rw [entities_eq policy richest h, families, List.forall₂_map_left_iff,
      List.forall₂_map_right_iff, List.forall₂_same]
    exact fun s hs ↦ gathered_makes (mem_founders.mp hs).2 policy.rounding
  · have hlengths := congrArg (fun l ↦ (l.map List.length).sum) hprovenance
    simp only [List.map_map, Function.comp_def, List.length_map] at hlengths
    rw [hlengths, ← sightings_length, ← hperm.length_eq, List.length_flatten]
  · intro f hf
    obtain ⟨s, -, rfl⟩ := List.mem_map.mp hf
    exact family_apart hprecedes s
  · intro f hf
    obtain ⟨s, hs, rfl⟩ := List.mem_map.mp hf
    exact family_sublist (founder_mem hs)
  · rw [heads_eq_founders]
    exact List.filter_sublist
  · exact fun s hs ↦ ⟨firsts_mem_families hs, firsts_sources h s.key⟩
  · exact fun s hs hf ↦ singleton_mem_families hs hf

end Outputs

def ride (source id name : String) : LiveEntity :=
  { externalId := id, source := source, entityType := .attraction, name := name,
    status := .operating }

def wikiCarousels : LiveReport :=
  { source := "themeparks-wiki", parkExternalId := "w", fetchedAt := .epoch
    entities := [ride "themeparks-wiki" "1" "Carousel", ride "themeparks-wiki" "2" "Carousel"] }

/-- Two sources, both of which have a carousel twice, and a third one that spells it in capitals. -/
def carousels : List (String × LiveReport) := [
  ("themeparks-wiki", wikiCarousels),
  ("queue-times", {
    source := "queue-times", parkExternalId := "q", fetchedAt := .epoch
    entities := [ride "queue-times" "7" "Taron", ride "queue-times" "8" "Carousel",
      ride "queue-times" "9" "Carousel"] }),
  ("wartezeiten", {
    source := "wartezeiten", parkExternalId := "z", fetchedAt := .epoch
    entities := [ride "wartezeiten" "c" "CAROUSEL"] })]

theorem resolveOrdered_conserves_carousels :
    (carousels.map (·.1)).Nodup ∧
      Conserves 5 carousels (families (sightings carousels))
        (resolveOrdered {} wikiCarousels carousels).report.entities := by
  have hids : (carousels.map (·.1)).Nodup := by decide
  exact ⟨hids, resolveOrdered_conserves {} wikiCarousels carousels hids⟩

end ParkFusion.Merge
