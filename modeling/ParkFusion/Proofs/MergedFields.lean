import ParkFusion.Proofs.EffectiveOrder
import ParkFusion.Proofs.MergeConservation
import ParkFusion.Proofs.WaitRounding

namespace ParkFusion

namespace Instant

/-- The latest of some instants, if there are any. -/
def IsLatest (times : List Instant) : Option Instant → Prop
  | none => times = []
  | some t => t ∈ times ∧ ∀ u ∈ times, u ≤ t

theorem isLatest_toList (a : Option Instant) : IsLatest a.toList a := by
  cases a with
  | none => rfl
  | some t =>
    refine ⟨List.mem_singleton_self t, fun u hu ↦ ?_⟩
    rw [List.mem_singleton.mp hu]
    exact Int.le_refl t.rank

theorem isLatest_later {times : List Instant} {a : Option Instant} (h : IsLatest times a)
    (b : Option Instant) : IsLatest (times ++ b.toList) (Merge.later a b) := by
  cases b with
  | none => cases a <;> simpa [Merge.later] using h
  | some u =>
    cases a with
    | none =>
      obtain rfl : times = [] := h
      exact isLatest_toList (some u)
    | some t =>
      obtain ⟨hmem, hle⟩ := h
      simp only [Merge.later, IsLatest, Option.toList_some, List.mem_append, List.mem_singleton]
      by_cases htu : t ≤ u
      · rw [show max t u = u from if_pos htu]
        refine ⟨Or.inr rfl, ?_⟩
        rintro v (hv | rfl)
        · exact Int.le_trans (hle v hv) htu
        · exact Int.le_refl _
      · rw [show max t u = t from if_neg htu]
        refine ⟨Or.inl hmem, ?_⟩
        rintro v (hv | rfl)
        · exact hle v hv
        · exact Int.le_of_lt (Int.not_le.mp htu)

end Instant

namespace Merge

open Sighting

/-- What an entity has of its contributors, apart from the wait: what it is from the first of them,
and everything that may be missing from the first that has it. -/
structure Shows (family : List Sighting) (e : LiveEntity) : Prop where
  leader : ∃ s, family.head? = some s ∧
    (e.externalId, e.source, e.entityType, e.name, e.status) =
      (s.entity.externalId, s.entity.source, s.entity.entityType, s.entity.name, s.entity.status)
  provenance : e.provenance = family.map (·.source)
  queues : e.queues = ((family.map (·.entity.queues)).find? (· ≠ [])).getD []
  showtimes : e.showtimes = family.findSome? (·.entity.showtimes)
  dining : e.dining = family.findSome? (·.entity.dining)
  land : e.landExternalId = family.findSome? (·.entity.landExternalId)
  lastUpdated : Instant.IsLatest (family.filterMap (·.entity.lastUpdated)) e.lastUpdated

/-- The same with the wait, to which all contributors that tell one have a say. -/
structure Combines (rounding : UInt32) (family : List Sighting) (e : LiveEntity) : Prop
    extends Shows family e where
  wait : e.waitTime = Wait.resolve? (family.filterMap (·.entity.waitTime)) rounding
  waitless : e.waitTime = none ↔ ∀ s ∈ family, s.entity.waitTime = none

section Step

variable {family : List Sighting} {m : Merged} {s : Sighting} {e : LiveEntity}

theorem filterMap_concat {α : Type} (f : Sighting → Option α) (family : List Sighting)
    (s : Sighting) : (family ++ [s]).filterMap f = family.filterMap f ++ (f s).toList := by
  rw [List.filterMap_append]
  cases h : f s <;> simp [h]

theorem findSome?_concat {α : Type} (f : Sighting → Option α) (family : List Sighting)
    (s : Sighting) : (family ++ [s]).findSome? f = (family.findSome? f).or (f s) := by
  rw [List.findSome?_append]
  cases h : f s <;> simp [h]

theorem shows_seeded (key : Option String) (s : Sighting) :
    Shows [s] (seeded key s).live := by
  refine ⟨⟨s, rfl, rfl⟩, rfl, ?_, ?_, ?_, ?_, ?_⟩
  · cases h : s.entity.queues <;> simp [seeded, seed, h]
  · exact (findSome?_concat (·.entity.showtimes) [] s).symm
  · exact (findSome?_concat (·.entity.dining) [] s).symm
  · exact (findSome?_concat (·.entity.landExternalId) [] s).symm
  · rw [← List.nil_append [s], filterMap_concat]
    exact Instant.isLatest_toList s.entity.lastUpdated

/-- One more contributor fills what is still missing. -/
theorem Shows.takeIn (h : Shows family m.live) (s : Sighting) :
    Shows (family ++ [s]) (m.takeIn s).live := by
  refine ⟨?_, ?_, ?_, ?_, ?_, ?_, ?_⟩
  · obtain ⟨first, hfirst, hsame⟩ := h.leader
    refine ⟨first, ?_, hsame⟩
    rw [List.head?_append, hfirst, Option.some_or]
  · rw [List.map_append, ← h.provenance]
    rfl
  · rw [List.map_append, List.find?_append]
    have hqueues := h.queues
    change (if m.live.queues.isEmpty then s.entity.queues else m.live.queues) = _
    cases hfound : (family.map (·.entity.queues)).find? (· ≠ []) with
    | none =>
      rw [hfound] at hqueues
      cases hs : s.entity.queues <;> simp [hqueues, hs]
    | some queues =>
      rw [hfound] at hqueues
      have hne := List.find?_some hfound
      simp_all
  · rw [findSome?_concat, ← h.showtimes]
    rfl
  · rw [findSome?_concat, ← h.dining]
    rfl
  · rw [findSome?_concat, ← h.land]
    rfl
  · rw [filterMap_concat]
    exact Instant.isLatest_later h.lastUpdated s.entity.lastUpdated

theorem sampleOf_waits (source : String) (e : LiveEntity) (observedAt : Instant) :
    (sampleOf source e observedAt).map (·.wait) = e.waitTime.toList := by
  unfold sampleOf
  cases e.waitTime <;> rfl

theorem takeIn_waits (m : Merged) (s : Sighting) :
    (m.takeIn s).waits.map (·.wait) = m.waits.map (·.wait) ++ s.entity.waitTime.toList := by
  rw [← sampleOf_waits s.source s.entity s.observedAt, ← List.map_append]
  rfl

/-- A whole family shows up in what it is merged into. -/
theorem shows_foldl (key : Option String) (s : Sighting) (rest : List Sighting) :
    Shows (s :: rest) (rest.foldl Merged.takeIn (seeded key s)).live ∧
      (rest.foldl Merged.takeIn (seeded key s)).waits.map (·.wait) =
        (s :: rest).filterMap (·.entity.waitTime) := by
  -- from the end: the last contributor is taken in by what the others came to
  induction rest using List.reverseRecOn with
  | nil =>
    refine ⟨shows_seeded key s, ?_⟩
    rw [← List.nil_append [s], filterMap_concat]
    exact sampleOf_waits s.source s.entity s.observedAt
  | append_singleton rest last ih =>
    rw [List.foldl_append, List.foldl_cons, List.foldl_nil, ← List.cons_append, filterMap_concat,
      ← ih.2]
    exact ⟨ih.1.takeIn last, takeIn_waits _ last⟩

theorem combines_of_makes {rounding : UInt32} (h : Makes rounding family e) :
    Combines rounding family e := by
  obtain ⟨key, s, rest, rfl, rfl⟩ := h
  obtain ⟨hshows, hwaits⟩ := shows_foldl key s rest
  have hwait : ((rest.foldl Merged.takeIn (seeded key s)).finish rounding).waitTime =
      Wait.resolve? ((s :: rest).filterMap (·.entity.waitTime)) rounding :=
    congrArg (Wait.resolve? · rounding) hwaits
  refine ⟨⟨hshows.leader, hshows.provenance, hshows.queues, hshows.showtimes, hshows.dining,
    hshows.land, hshows.lastUpdated⟩, hwait, ?_⟩
  rw [hwait, Wait.resolve?_eq_none, List.filterMap_eq_nil_iff]

end Step

section Resolution

variable {policy : Policy} {ordered : List (String × LiveReport)}

theorem resolveOrdered_combines (policy : Policy) (richest : LiveReport)
    (h : (ordered.map (·.1)).Nodup) :
    List.Forall₂ (Combines policy.rounding) (families (sightings ordered))
      (resolveOrdered policy richest ordered).report.entities := by
  rw [entities_eq policy richest h, families, List.forall₂_map_left_iff,
    List.forall₂_map_right_iff, List.forall₂_same]
  intro s hs
  exact combines_of_makes (gathered_makes (mem_founders.mp hs).2 policy.rounding)

/-- Whatever is reported, every entity of the resolution has each of its fields from its
contributors, which stand in the effective order of their sources. -/
theorem resolve_combines (policy : Policy) (ranking : List String)
    {reports : List (String × LiveReport)} (h : (reports.map (·.1)).Nodup) (hne : reports ≠ []) :
    ∃ ordered resolution, ordered.Perm reports ∧
      ordered.map (·.1) = effectiveIds ranking policy.priority (reports.map (·.1)) ∧
      resolve policy ranking reports = .ok resolution ∧
      (∀ family ∈ families (sightings ordered), family.Sublist (sightings ordered)) ∧
      List.Forall₂ (Combines policy.rounding) (families (sightings ordered))
        resolution.report.entities := by
  obtain ⟨first, rest, ho⟩ := exists_order_cons h hne (ranking ++ policy.priority)
  have hperm : (order (ranking ++ policy.priority) reports).Perm reports := order_perm h
  have hids := order_effectiveIds h ranking policy.priority
  rw [ho] at hperm hids
  have hdistinct : ((first :: rest).map (·.1)).Nodup := (hperm.map _).nodup_iff.mpr h
  refine ⟨first :: rest, _, hperm, hids, resolve_of_order ho, ?_, ?_⟩
  · intro family hfamily
    obtain ⟨s, hs, rfl⟩ := List.mem_map.mp hfamily
    exact family_sublist (founder_mem hs)
  · exact resolveOrdered_combines policy first.2 hdistinct

end Resolution

/-- One coaster as three sources tell it. The one with the first word comes last here, and knows
neither its queues nor when it was updated. -/
def taronReports : List (String × LiveReport) := [
  ("wartezeiten", {
    source := "wartezeiten", parkExternalId := "z", fetchedAt := .epoch
    entities := [{ ride "wartezeiten" "t" "TARON" with
      status := .closed, lastUpdated := some .epoch }] }),
  ("queue-times", {
    source := "queue-times", parkExternalId := "56", fetchedAt := .epoch
    entities := [{ ride "queue-times" "7" "Taron" with
      waitTime := some 40, landExternalId := some "3",
      queues := [{ queueType := .standby, waitTime := some 40 }] }] }),
  ("themeparks-wiki", {
    source := "themeparks-wiki", parkExternalId := "w", fetchedAt := .epoch
    entities := [{ ride "themeparks-wiki" "1" "Taron" with waitTime := some 25 }] })]

theorem resolve_combines_taron :
    (taronReports.map (·.1)).Nodup ∧ taronReports ≠ [] ∧
      ∃ ordered resolution, ordered.Perm taronReports ∧
        ordered.map (·.1) =
          effectiveIds [] ({} : Policy).priority (taronReports.map (·.1)) ∧
        resolve {} [] taronReports = .ok resolution ∧
        (∀ family ∈ families (sightings ordered), family.Sublist (sightings ordered)) ∧
        List.Forall₂ (Combines 5) (families (sightings ordered)) resolution.report.entities := by
  have hids : (taronReports.map (·.1)).Nodup := by decide
  have hne : taronReports ≠ [] := List.cons_ne_nil _ _
  exact ⟨hids, hne, resolve_combines {} [] hids hne⟩

end Merge

end ParkFusion
