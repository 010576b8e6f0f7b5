import Mathlib.Algebra.GroupWithZero.Nat
import Mathlib.Data.List.Nodup
import Mathlib.Data.List.Perm.Basic
import ParkFusion.Merge

namespace ParkFusion.Merge

/-- An entity as one source reports it: its place in the report, and the time it was observed. -/
structure Sighting where
  source : String
  position : Nat
  entity : LiveEntity
  observedAt : Instant
  deriving DecidableEq, Repr

def sightingsOf (entry : String × LiveReport) : List Sighting :=
  entry.2.entities.zipIdx.map fun (e, n) ↦
    ⟨entry.1, n, e, e.lastUpdated.getD entry.2.fetchedAt⟩

/-- All entities of the reports, source by source. -/
def sightings (ordered : List (String × LiveReport)) : List Sighting :=
  ordered.flatMap sightingsOf

namespace Sighting

def key (s : Sighting) : String := Name.key s.entity.name

/-- The order of the sightings: those of one source stand as they do in its report. -/
def Precedes (s t : Sighting) : Prop :=
  s.source = t.source → s.position < t.position

/-- No other entity of its source has the name at an earlier place. -/
def IsFirst (all : List Sighting) (s : Sighting) : Prop :=
  ∀ t ∈ all, t.source = s.source → t.key = s.key → s.position ≤ t.position

instance (all : List Sighting) (s : Sighting) : Decidable (s.IsFirst all) :=
  inferInstanceAs (Decidable (∀ t ∈ all, _))

end Sighting

open Sighting

/-- The first entity of every source that reports the name. -/
def firsts (all : List Sighting) (key : String) : List Sighting :=
  all.filter fun s ↦ s.IsFirst all ∧ s.key = key

/-- What goes into one merged entity with the sighting. -/
def family (all : List Sighting) (s : Sighting) : List Sighting :=
  if s.IsFirst all then firsts all s.key else [s]

def Founds (all : List Sighting) (s : Sighting) : Prop :=
  (family all s).head? = some s

instance (all : List Sighting) (s : Sighting) : Decidable (Founds all s) :=
  inferInstanceAs (Decidable (_ = _))

def founders (all : List Sighting) : List Sighting :=
  all.filter fun s ↦ Founds all s

/-- The families, in the order in which they are founded. -/
def families (all : List Sighting) : List (List Sighting) :=
  (founders all).map (family all)

section Reports

variable {ordered : List (String × LiveReport)}

theorem sightingsOf_source {entry : String × LiveReport} {s : Sighting}
    (h : s ∈ sightingsOf entry) : s.source = entry.1 := by
  obtain ⟨e, -, rfl⟩ := List.mem_map.mp h
  rfl

theorem sightingsOf_precedes (entry : String × LiveReport) :
    (sightingsOf entry).Pairwise Precedes := by
  have hpositions : (entry.2.entities.zipIdx.map (·.2)).Pairwise (· < ·) := by
    rw [List.zipIdx_map_snd]
    exact List.pairwise_lt_range'
  rw [sightingsOf, List.pairwise_map]
  refine (List.pairwise_map.mp hpositions).imp ?_
  intro a b hlt _
  exact hlt

theorem sightings_precedes (h : (ordered.map (·.1)).Nodup) :
    (sightings ordered).Pairwise Precedes := by
  refine List.pairwise_flatMap.mpr ⟨fun entry _ ↦ sightingsOf_precedes entry, ?_⟩
  refine (List.pairwise_map.mp h).imp fun hne s hs t ht he ↦ absurd ?_ hne
  rw [← sightingsOf_source hs, ← sightingsOf_source ht, he]

theorem sightings_cons (entry : String × LiveReport) (ordered : List (String × LiveReport)) :
    sightings (entry :: ordered) = sightingsOf entry ++ sightings ordered := rfl

theorem sightings_length (ordered : List (String × LiveReport)) :
    (sightings ordered).length = (ordered.map (·.2.entities.length)).sum := by
  simp [sightings, sightingsOf, List.length_flatMap]

end Reports

section Families

variable {all : List Sighting} {s t : Sighting} {key : String}

theorem nodup_of_precedes (h : all.Pairwise Precedes) : all.Nodup := by
  refine h.imp ?_
  rintro s _ hp rfl
  exact Nat.lt_irrefl s.position (hp rfl)

theorem mem_firsts : s ∈ firsts all key ↔ s ∈ all ∧ s.IsFirst all ∧ s.key = key := by
  simp [firsts]

theorem mem_family (hs : s ∈ all) : s ∈ family all s := by
  unfold family
  split
  · rename_i hf
    exact mem_firsts.mpr ⟨hs, hf, rfl⟩
  · exact List.mem_singleton.mpr rfl

theorem family_sublist (hs : s ∈ all) : (family all s).Sublist all := by
  unfold family
  split
  · exact List.filter_sublist
  · exact List.singleton_sublist.mpr hs

theorem family_eq_of_mem (ht : t ∈ family all s) : family all t = family all s := by
  by_cases hf : s.IsFirst all
  · rw [family, if_pos hf] at ht
    obtain ⟨-, htf, hkey⟩ := mem_firsts.mp ht
    rw [family, if_pos htf, family, if_pos hf, hkey]
  · rw [family, if_neg hf] at ht
    rw [List.mem_singleton.mp ht]

theorem mem_founders : s ∈ founders all ↔ s ∈ all ∧ Founds all s := by
  simp [founders]

theorem founder_mem (hs : s ∈ founders all) : s ∈ all := (mem_founders.mp hs).1

theorem exists_founder (ht : t ∈ all) : ∃ s ∈ founders all, t ∈ family all s := by
  obtain ⟨s, hs⟩ : ∃ s, (family all t).head? = some s :=
    Option.isSome_iff_exists.mp (by simpa using List.ne_nil_of_mem (mem_family ht))
  have hmem : s ∈ family all t := List.mem_of_mem_head? hs
  have hfamily := family_eq_of_mem hmem
  refine ⟨s, mem_founders.mpr ⟨(family_sublist ht).subset hmem, ?_⟩, hfamily ▸ mem_family ht⟩
  rw [Founds, hfamily, hs]

theorem eq_of_founds (hs : Founds all s) (ht : Founds all t) (h : family all s = family all t) :
    s = t := by
  unfold Founds at hs ht
  rw [h, ht] at hs
  exact (Option.some.inj hs).symm

/-- Every source that reports a name has a first entity of it. -/
theorem exists_first (ht : t ∈ all) : ∃ u ∈ firsts all t.key, u.source = t.source := by
  induction hn : t.position using Nat.strongRecOn generalizing t with
  | ind n ih =>
    by_cases hf : t.IsFirst all
    · exact ⟨t, mem_firsts.mpr ⟨ht, hf, rfl⟩, rfl⟩
    · simp only [IsFirst, not_forall, Nat.not_le] at hf
      obtain ⟨u, hu, hsource, hkey, hlt⟩ := hf
      obtain ⟨v, hv, hvs⟩ := ih u.position (hn ▸ hlt) hu rfl
      exact ⟨v, hkey ▸ hv, hvs.trans hsource⟩

theorem exists_founder_of_firsts (ht : t ∈ firsts all key) :
    ∃ s ∈ founders all, s.IsFirst all ∧ s.key = key := by
  obtain ⟨hta, htf, htk⟩ := mem_firsts.mp ht
  obtain ⟨s, hs, hts⟩ := exists_founder hta
  refine ⟨s, hs, ?_⟩
  unfold family at hts
  split at hts
  · rename_i hsf
    exact ⟨hsf, (mem_firsts.mp hts).2.2.symm.trans htk⟩
  · rename_i hsf
    exact absurd (List.mem_singleton.mp hts ▸ htf) hsf

/-- Every sighting is in exactly one family. -/
theorem families_flatten_perm (h : all.Nodup) : (families all).flatten.Perm all := by
  have hdisjoint : (families all).Pairwise List.Disjoint := by
    rw [families, List.pairwise_map]
    refine (h.filter _).imp_of_mem fun {s t} hs ht hne u hus hut ↦ hne ?_
    exact eq_of_founds (mem_founders.mp hs).2 (mem_founders.mp ht).2
      ((family_eq_of_mem hus).symm.trans (family_eq_of_mem hut))
  have hnodup : (families all).flatten.Nodup := by
    refine List.nodup_flatten.mpr ⟨fun f hf ↦ ?_, hdisjoint⟩
    obtain ⟨s, hs, rfl⟩ := List.mem_map.mp hf
    exact h.sublist (family_sublist (founder_mem hs))
  refine (List.perm_ext_iff_of_nodup hnodup h).mpr fun t ↦ ⟨fun ht ↦ ?_, fun ht ↦ ?_⟩
  · obtain ⟨f, hf, htf⟩ := List.mem_flatten.mp ht
    obtain ⟨s, hs, rfl⟩ := List.mem_map.mp hf
    exact (family_sublist (founder_mem hs)).subset htf
  · obtain ⟨s, hs, hts⟩ := exists_founder ht
    exact List.mem_flatten.mpr ⟨family all s, List.mem_map_of_mem hs, hts⟩

end Families

section Later

variable {done : List Sighting} {s t : Sighting} {key : String}

theorem isFirst_last (h : ∀ t ∈ done, t.Precedes s) :
    s.IsFirst (done ++ [s]) ↔ ∀ t ∈ done, t.source = s.source → t.key ≠ s.key := by
  refine ⟨fun hf t ht hsource hkey ↦ ?_, fun hnew t ht hsource hkey ↦ ?_⟩
  · have hle := hf t (List.mem_append_left _ ht) hsource hkey
    have hlt := h t ht hsource
    omega
  · rcases List.mem_append.mp ht with ht | ht
    · exact absurd hkey (hnew t ht hsource)
    · exact Nat.le_of_eq (congrArg position (List.mem_singleton.mp ht)).symm

theorem isFirst_append (h : ∀ t ∈ done, t.Precedes s) (ht : t ∈ done) :
    t.IsFirst (done ++ [s]) ↔ t.IsFirst done := by
  refine ⟨fun hf u hu ↦ hf u (List.mem_append_left _ hu), fun hf u hu hsource hkey ↦ ?_⟩
  rcases List.mem_append.mp hu with hu | hu
  · exact hf u hu hsource hkey
  · rw [List.mem_singleton.mp hu] at hsource ⊢
    exact Nat.le_of_lt (h t ht hsource.symm)

theorem firsts_append (h : ∀ t ∈ done, t.Precedes s) (key : String) :
    firsts (done ++ [s]) key =
      firsts done key ++ if s.IsFirst (done ++ [s]) ∧ s.key = key then [s] else [] := by
  unfold firsts
  rw [List.filter_append, List.filter_singleton]
  congr 1
  · refine List.filter_congr fun t ht ↦ ?_
    simp only [isFirst_append h ht]
  · simp

/-- A later sighting joins the family of its name, if it is a first one. -/
theorem family_append (h : ∀ t ∈ done, t.Precedes s) (ht : t ∈ done) :
    family (done ++ [s]) t = family done t ++
      if t.IsFirst done ∧ s.IsFirst (done ++ [s]) ∧ s.key = t.key then [s] else [] := by
  unfold family
  by_cases hf : t.IsFirst done
  · simp only [isFirst_append h ht, hf, if_true, true_and]
    exact firsts_append h t.key
  · simp only [isFirst_append h ht, hf, if_false, false_and, List.append_nil]

theorem founds_append (h : ∀ t ∈ done, t.Precedes s) (ht : t ∈ done) :
    Founds (done ++ [s]) t ↔ Founds done t := by
  unfold Founds
  rw [family_append h ht, List.head?_append_of_ne_nil _ (List.ne_nil_of_mem (mem_family ht))]

theorem founders_append (h : ∀ t ∈ done, t.Precedes s) :
    founders (done ++ [s]) = founders done ++ if Founds (done ++ [s]) s then [s] else [] := by
  unfold founders
  rw [List.filter_append, List.filter_singleton]
  congr 1
  · refine List.filter_congr fun t ht ↦ ?_
    simp only [founds_append h ht]
  · simp

/-- A last sighting stands alone, unless it is a first one of a name that is there already. -/
theorem family_last (h : ∀ t ∈ done, t.Precedes s)
    (hnew : s.IsFirst (done ++ [s]) → ∀ t ∈ done, t.key ≠ s.key) :
    family (done ++ [s]) s = [s] := by
  unfold family
  split
  · rename_i hf
    have hnone : firsts done s.key = [] := by
      refine List.eq_nil_iff_forall_not_mem.mpr fun t ht ↦ ?_
      obtain ⟨htd, -, hkey⟩ := mem_firsts.mp ht
      exact hnew hf t htd hkey
    rw [firsts_append h, hnone, if_pos ⟨hf, rfl⟩]
    rfl
  · rfl

theorem not_founds_last (h : ∀ t ∈ done, t.Precedes s) (hf : s.IsFirst (done ++ [s]))
    (ht : t ∈ done) (hkey : t.key = s.key) : ¬ Founds (done ++ [s]) s := by
  obtain ⟨u, hu, -⟩ := exists_first ht
  rw [hkey] at hu
  intro hfounds
  have hhead : (firsts done s.key).head? = some s := by
    rw [Founds, family, if_pos hf, firsts_append h,
      List.head?_append_of_ne_nil _ (List.ne_nil_of_mem hu)] at hfounds
    exact hfounds
  have hs : s ∈ done := (mem_firsts.mp (List.mem_of_mem_head? hhead)).1
  exact Nat.lt_irrefl s.position (h s hs rfl)

end Later

end ParkFusion.Merge
