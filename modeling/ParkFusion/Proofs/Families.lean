import Mathlib.Algebra.BigOperators.Group.List.Basic
import Mathlib.Data.List.Forall2
import Mathlib.Data.List.Induction
import ParkFusion.Proofs.Sightings

namespace ParkFusion.Merge

open Sighting

section Place

variable {source key : String} {entity : LiveEntity} {observedAt : Instant} {merged : List Merged}

theorem place_new (h : ∀ m ∈ merged, m.key ≠ some key) :
    place source key entity observedAt merged =
      merged ++ [seed (some key) source entity observedAt] := by
  induction merged with
  | nil => rfl
  | cons m rest ih =>
    rw [place, if_neg (h m List.mem_cons_self), ih fun m hm ↦ h m (List.mem_cons_of_mem _ hm)]
    rfl

theorem place_repeated (hex : ∃ m ∈ merged, m.key = some key)
    (hheld : ∀ m ∈ merged, m.key = some key → m.hasSource source) :
    place source key entity observedAt merged =
      merged ++ [seed none source entity observedAt] := by
  induction merged with
  | nil => simp at hex
  | cons m rest ih =>
    rw [place]
    by_cases hm : m.key = some key
    · rw [if_pos hm, if_pos (hheld m List.mem_cons_self hm)]
      rfl
    · have hrest : ∃ m ∈ rest, m.key = some key := by
        obtain ⟨n, hn, hkey⟩ := hex
        rcases List.mem_cons.mp hn with rfl | hn
        · exact absurd hkey hm
        · exact ⟨n, hn, hkey⟩
      rw [if_neg hm, ih hrest fun n hn ↦ hheld n (List.mem_cons_of_mem m hn)]
      rfl

theorem place_absorbed (hex : ∃ m ∈ merged, m.key = some key)
    (hone : merged.Pairwise fun m n ↦ ¬ (m.key = some key ∧ n.key = some key))
    (hnew : ∀ m ∈ merged, m.key = some key → m.hasSource source = false) :
    place source key entity observedAt merged =
      merged.map fun m ↦ if m.key = some key then m.absorb source entity observedAt else m := by
  induction merged with
  | nil => simp at hex
  | cons m rest ih =>
    obtain ⟨hfirst, hrest⟩ := List.pairwise_cons.mp hone
    rw [place, List.map_cons]
    by_cases hm : m.key = some key
    · have hothers : ∀ n ∈ rest, n.key ≠ some key := fun n hn hkey ↦ hfirst n hn ⟨hm, hkey⟩
      have hsource : ¬ m.hasSource source = true := by simp [hnew m List.mem_cons_self hm]
      rw [if_pos hm, if_pos hm, if_neg hsource]
      congr 1
      rw [List.map_congr_left fun n hn ↦ if_neg (hothers n hn), List.map_id']
    · have hex' : ∃ m ∈ rest, m.key = some key := by
        obtain ⟨n, hn, hkey⟩ := hex
        rcases List.mem_cons.mp hn with rfl | hn
        · exact absurd hkey hm
        · exact ⟨n, hn, hkey⟩
      rw [if_neg hm, if_neg hm, ih hex' hrest fun n hn ↦ hnew n (List.mem_cons_of_mem m hn)]

end Place

namespace Merged

def takeIn (m : Merged) (s : Sighting) : Merged :=
  m.absorb s.source s.entity s.observedAt

theorem foldl_takeIn_key (m : Merged) (rest : List Sighting) :
    (rest.foldl takeIn m).key = m.key := by
  induction rest generalizing m with
  | nil => rfl
  | cons s rest ih => exact ih (m.takeIn s)

theorem foldl_takeIn_provenance (m : Merged) (rest : List Sighting) :
    (rest.foldl takeIn m).live.provenance = m.live.provenance ++ rest.map (·.source) := by
  induction rest generalizing m with
  | nil => simp
  | cons s rest ih =>
    rw [List.foldl_cons, ih (m.takeIn s), List.map_cons, ← List.singleton_append,
      ← List.append_assoc]
    rfl

end Merged

def add (merged : List Merged) (s : Sighting) : List Merged :=
  place s.source s.key s.entity s.observedAt merged

theorem mergeEntities_eq_foldl (ordered : List (String × LiveReport)) :
    mergeEntities ordered = (sightings ordered).foldl add [] := by
  rw [mergeEntities, sightings, List.foldl_flatMap]
  congr 1
  funext merged entry
  have hentities : entry.2.entities = entry.2.entities.zipIdx.map Prod.fst :=
    (List.zipIdx_map_fst 0 _).symm
  rw [addReport, hentities, List.foldl_map, sightingsOf, List.foldl_map]
  rfl

def seeded (key : Option String) (s : Sighting) : Merged :=
  seed key s.source s.entity s.observedAt

/-- What the family of a founder is merged into. -/
def gathered (all : List Sighting) (s : Sighting) : Merged :=
  (family all s).tail.foldl Merged.takeIn
    (seeded (if s.IsFirst all then some s.key else none) s)

section Gathered

variable {all done : List Sighting} {s t : Sighting} {key : String}

theorem gathered_key : (gathered all s).key = some key ↔ s.IsFirst all ∧ s.key = key := by
  unfold gathered
  rw [Merged.foldl_takeIn_key]
  change (if s.IsFirst all then some s.key else none) = some key ↔ _
  split <;> simp [*]

theorem family_of_founds (h : Founds all s) : family all s = s :: (family all s).tail :=
  List.eq_cons_of_mem_head? h

theorem gathered_provenance (h : Founds all s) :
    (gathered all s).live.provenance = (family all s).map (·.source) := by
  conv_rhs => rw [family_of_founds h]
  exact Merged.foldl_takeIn_provenance _ _

theorem gathered_hasSource {m : Merged} (hm : m ∈ (founders all).map (gathered all))
    (hkey : m.key = some key) (source : String) :
    m.hasSource source ↔ ∃ u ∈ firsts all key, u.source = source := by
  obtain ⟨s, hs, rfl⟩ := List.mem_map.mp hm
  obtain ⟨hf, hsk⟩ := gathered_key.mp hkey
  rw [Merged.hasSource, gathered_provenance (mem_founders.mp hs).2, family, if_pos hf, hsk]
  simp

theorem gathered_append (h : ∀ t ∈ done, t.Precedes s) (ht : t ∈ done) :
    gathered (done ++ [s]) t =
      if t.IsFirst done ∧ s.IsFirst (done ++ [s]) ∧ s.key = t.key then (gathered done t).takeIn s
      else gathered done t := by
  have hne := List.ne_nil_of_mem (mem_family ht)
  unfold gathered
  rw [family_append h ht, List.tail_append_of_ne_nil hne, List.foldl_append]
  simp only [isFirst_append h ht]
  by_cases hjoin : t.IsFirst done ∧ s.IsFirst (done ++ [s]) ∧ s.key = t.key
  · rw [if_pos hjoin, if_pos hjoin]
    rfl
  · rw [if_neg hjoin, if_neg hjoin]
    rfl

theorem gathered_unjoined (h : ∀ t ∈ done, t.Precedes s)
    (hout : s.IsFirst (done ++ [s]) → ∀ t ∈ done, t.key ≠ s.key) :
    (founders done).map (gathered (done ++ [s])) = (founders done).map (gathered done) := by
  refine List.map_congr_left fun t ht ↦ ?_
  have htd : t ∈ done := founder_mem ht
  rw [gathered_append h htd, if_neg]
  rintro ⟨-, hf, hkey⟩
  exact hout hf t htd hkey.symm

theorem gathered_last (h : family (done ++ [s]) s = [s]) :
    gathered (done ++ [s]) s =
      seeded (if s.IsFirst (done ++ [s]) then some s.key else none) s := by
  rw [gathered, h]
  rfl

theorem founds_of_family_last (h : family (done ++ [s]) s = [s]) : Founds (done ++ [s]) s := by
  rw [Founds, h]
  rfl

theorem gathered_founders_once (h : all.Nodup) (key : String) :
    ((founders all).map (gathered all)).Pairwise fun m n ↦
      ¬ (m.key = some key ∧ n.key = some key) := by
  rw [List.pairwise_map]
  refine (h.filter _).imp_of_mem fun {s t} hs ht hne hkeys ↦ hne ?_
  obtain ⟨hsf, hsk⟩ := gathered_key.mp hkeys.1
  obtain ⟨htf, htk⟩ := gathered_key.mp hkeys.2
  refine eq_of_founds (mem_founders.mp hs).2 (mem_founders.mp ht).2 ?_
  rw [family, if_pos hsf, family, if_pos htf, hsk, htk]

theorem gathered_hasKey (hu : t ∈ firsts all key) :
    ∃ m ∈ (founders all).map (gathered all), m.key = some key := by
  obtain ⟨v, hv, hvf, hvk⟩ := exists_founder_of_firsts hu
  exact ⟨_, List.mem_map_of_mem hv, gathered_key.mpr ⟨hvf, hvk⟩⟩

theorem add_joining (hd : done.Nodup) (h : ∀ t ∈ done, t.Precedes s)
    (hf : s.IsFirst (done ++ [s])) (ht : t ∈ done) (hkey : t.key = s.key) :
    add ((founders done).map (gathered done)) s =
      (founders done).map (gathered (done ++ [s])) := by
  have hfree : ∀ m ∈ (founders done).map (gathered done), m.key = some s.key →
      m.hasSource s.source = false := by
    intro m hm hmk
    refine Bool.eq_false_iff.mpr fun hheld ↦ ?_
    obtain ⟨x, hx, hxs⟩ := (gathered_hasSource hm hmk s.source).mp hheld
    obtain ⟨hxd, -, hxk⟩ := mem_firsts.mp hx
    exact (isFirst_last h).mp hf x hxd hxs hxk
  obtain ⟨u, hu, -⟩ := exists_first ht
  rw [add, place_absorbed (gathered_hasKey (hkey ▸ hu)) (gathered_founders_once hd s.key) hfree,
    List.map_map]
  refine List.map_congr_left fun w hw ↦ ?_
  rw [gathered_append h (founder_mem hw)]
  simp only [Function.comp_apply, gathered_key, hf, true_and, eq_comm (a := s.key)]
  rfl

theorem add_opening (h : ∀ t ∈ done, t.Precedes s) (hf : s.IsFirst (done ++ [s]))
    (hnew : ∀ t ∈ done, t.key ≠ s.key) :
    add ((founders done).map (gathered done)) s =
      (founders done).map (gathered (done ++ [s])) ++ [gathered (done ++ [s]) s] := by
  have hkeys : ∀ m ∈ (founders done).map (gathered done), m.key ≠ some s.key := by
    intro m hm hmk
    obtain ⟨w, hw, rfl⟩ := List.mem_map.mp hm
    exact hnew w (founder_mem hw) (gathered_key.mp hmk).2
  rw [gathered_last (family_last h fun _ ↦ hnew), if_pos hf, gathered_unjoined h fun _ ↦ hnew, add,
    place_new hkeys]
  rfl

theorem add_repeating (h : ∀ t ∈ done, t.Precedes s) (hf : ¬ s.IsFirst (done ++ [s])) :
    add ((founders done).map (gathered done)) s =
      (founders done).map (gathered (done ++ [s])) ++ [gathered (done ++ [s]) s] := by
  have hsame : ∃ t ∈ done, t.source = s.source ∧ t.key = s.key := by
    simpa [isFirst_last h] using hf
  obtain ⟨t, ht, hsource, hkey⟩ := hsame
  obtain ⟨u, hu, husource⟩ := exists_first ht
  have hheld : ∀ m ∈ (founders done).map (gathered done), m.key = some s.key →
      m.hasSource s.source := by
    intro m hm hmk
    exact (gathered_hasSource hm hmk s.source).mpr ⟨u, hkey ▸ hu, husource.trans hsource⟩
  rw [gathered_last (family_last h fun hf' ↦ absurd hf' hf), if_neg hf,
    gathered_unjoined h fun hf' ↦ absurd hf' hf, add,
    place_repeated (gathered_hasKey (hkey ▸ hu)) hheld]
  rfl

/-- One more sighting joins the family of its name, if it is a first one and there is one, and
founds a family otherwise. -/
theorem add_gathered (hd : done.Nodup) (h : ∀ t ∈ done, t.Precedes s) :
    add ((founders done).map (gathered done)) s =
      (founders (done ++ [s])).map (gathered (done ++ [s])) := by
  rw [founders_append h, List.map_append]
  by_cases hf : s.IsFirst (done ++ [s])
  · by_cases hkey : ∃ t ∈ done, t.key = s.key
    · obtain ⟨t, ht, hts⟩ := hkey
      rw [if_neg (not_founds_last h hf ht hts), List.map_nil, List.append_nil]
      exact add_joining hd h hf ht hts
    · have hnew : ∀ t ∈ done, t.key ≠ s.key := fun t ht hts ↦ hkey ⟨t, ht, hts⟩
      rw [if_pos (founds_of_family_last (family_last h fun _ ↦ hnew))]
      exact add_opening h hf hnew
  · rw [if_pos (founds_of_family_last (family_last h fun hf' ↦ absurd hf' hf))]
    exact add_repeating h hf

theorem foldl_add (h : all.Pairwise Precedes) :
    all.foldl add [] = (founders all).map (gathered all) := by
  -- from the end: what is merged so far are the families of the sightings so far
  induction all using List.reverseRecOn with
  | nil => rfl
  | append_singleton done s ih =>
    obtain ⟨hdone, -, hlast⟩ := List.pairwise_append.mp h
    have hbefore : ∀ t ∈ done, t.Precedes s := fun t ht ↦ hlast t ht s List.mem_cons_self
    rw [List.foldl_append, ih hdone]
    exact add_gathered (nodup_of_precedes hdone) hbefore

end Gathered

end ParkFusion.Merge
