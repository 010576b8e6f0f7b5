import Mathlib.Data.List.ReduceOption
import ParkFusion.Proofs.MergedFields

namespace ParkFusion

/-- What is left of a list when of every two elements the one that suits better is kept. -/
theorem foldl_pick {α : Type} {r : α → α → Prop} {pick : α → α → α} (hrefl : ∀ a, r a a)
    (htrans : ∀ {a b c}, r a b → r b c → r a c)
    (hpick : ∀ a b, pick a b = a ∧ r b a ∨ pick a b = b ∧ r a b) (a : α) (l : List α) :
    l.foldl pick a ∈ a :: l ∧ ∀ b ∈ a :: l, r b (l.foldl pick a) := by
  induction l using List.reverseRecOn with
  | nil => simpa using hrefl a
  | append_singleton l last ih =>
    obtain ⟨hmem, hbest⟩ := ih
    rw [List.foldl_append, List.foldl_cons, List.foldl_nil, ← List.cons_append]
    rcases hpick (l.foldl pick a) last with ⟨heq, hlast⟩ | ⟨heq, hbetter⟩
    · rw [heq]
      refine ⟨List.mem_append_left _ hmem, ?_⟩
      intro b hb
      rcases List.mem_append.mp hb with hb | hb
      · exact hbest b hb
      · rwa [List.mem_singleton.mp hb]
    · rw [heq]
      refine ⟨List.mem_append_right _ (List.mem_singleton_self last), ?_⟩
      intro b hb
      rcases List.mem_append.mp hb with hb | hb
      · exact htrans (hbest b hb) hbetter
      · rw [List.mem_singleton.mp hb]
        exact hrefl last

namespace Instant

variable {newest a b : Instant} {window : ℤ}

/-- The second before it is prolonged by a leap second. -/
def IsLeap (t : Instant) : Prop := 1000000000 ≤ t.nano

instance (t : Instant) : Decidable t.IsLeap := inferInstanceAs (Decidable (_ ≤ _))

theorem latest?_isLatest (times : List Instant) : IsLatest times (latest? times) := by
  cases times with
  | nil => rfl
  | cons t times =>
    apply foldl_pick (r := fun a b : Instant ↦ a ≤ b)
    · exact fun a ↦ Int.le_refl a.rank
    · exact fun hab hbc ↦ Int.le_trans hab hbc
    · intro a b
      by_cases h : a ≤ b
      · exact .inr ⟨if_pos h, h⟩
      · exact .inl ⟨if_neg h, Int.le_of_lt (Int.not_le.mp h)⟩

/-- What lies near a later instant lies together, as long as there is no leap second. -/
theorem within_of_regular (hn : ¬ newest.IsLeap) (ha : ¬ a.IsLeap) (hb : ¬ b.IsLeap)
    (hle : a ≤ newest) (hle' : b ≤ newest) (hwa : newest.within window a)
    (hwb : newest.within window b) : a.within window b := by
  have hrank : a.rank ≤ newest.rank := hle
  have hrank' : b.rank ≤ newest.rank := hle'
  simp only [IsLeap, Nat.not_le] at hn ha hb
  simp only [within, since, decide_eq_true_eq, Bool.and_eq_true, rank] at hwa hwb hrank hrank' ⊢
  split_ifs at hwa hwb ⊢ <;> omega

/-- Leap seconds add less than two seconds to the difference. -/
theorem since_lt_of_within (hle : a ≤ newest) (hle' : b ≤ newest) (hwa : newest.within window a)
    (hwb : newest.within window b) : (a.since b).natAbs < (window + 2) * 1000000000 := by
  have hrank : a.rank ≤ newest.rank := hle
  have hrank' : b.rank ≤ newest.rank := hle'
  have := a.second_lt
  have := b.second_lt
  have := newest.second_lt
  have := a.nano_lt
  have := b.nano_lt
  have := newest.nano_lt
  simp only [within, since, decide_eq_true_eq, Bool.and_eq_true, rank] at hwa hwb hrank hrank' ⊢
  split_ifs at hwa hwb ⊢ <;> omega

end Instant

namespace WaitDiscrepancy

variable {waits : List UInt32} {samples : List WaitSample} {window : ℤ} {threshold : UInt32}

theorem greatest_spec (hne : waits ≠ []) :
    greatest waits ∈ waits ∧ ∀ w ∈ waits, w ≤ greatest waits := by
  cases waits with
  | nil => contradiction
  | cons w ws =>
    apply foldl_pick (r := fun a b : UInt32 ↦ a ≤ b) (fun _ ↦ UInt32.le_refl _) UInt32.le_trans
    intro a b
    by_cases h : a ≤ b
    · exact .inr ⟨if_pos h, h⟩
    · exact .inl ⟨if_neg h, (UInt32.le_total a b).resolve_left h⟩

theorem least_spec (hne : waits ≠ []) :
    least waits ∈ waits ∧ ∀ w ∈ waits, least waits ≤ w := by
  cases waits with
  | nil => contradiction
  | cons w ws =>
    apply foldl_pick (r := fun a b : UInt32 ↦ b ≤ a) (fun _ ↦ UInt32.le_refl _)
      (fun hab hbc ↦ UInt32.le_trans hbc hab)
    intro a b
    by_cases h : a ≤ b
    · exact .inl ⟨if_pos h, h⟩
    · exact .inr ⟨if_neg h, (UInt32.le_total a b).resolve_left h⟩

/-- By how much the greatest of some waits exceeds the least. -/
def IsSpread (waits : List UInt32) (spread : ℕ) : Prop :=
  ∃ hi ∈ waits, ∃ lo ∈ waits, (∀ w ∈ waits, lo ≤ w ∧ w ≤ hi) ∧ spread = hi.toNat - lo.toNat

theorem isSpread_of_ne_nil (hne : waits ≠ []) :
    IsSpread waits (greatest waits - least waits).toNat := by
  obtain ⟨hhi, hgreatest⟩ := greatest_spec hne
  obtain ⟨hlo, hleast⟩ := least_spec hne
  refine ⟨_, hhi, _, hlo, fun w hw ↦ ⟨hleast w hw, hgreatest w hw⟩, ?_⟩
  exact UInt32.toNat_sub_of_le _ _ (hleast _ hhi)

theorem IsSpread.lt_iff {spread : ℕ} (h : IsSpread waits spread) (n : ℕ) :
    n < spread ↔ ∃ v ∈ waits, ∃ w ∈ waits, n + w.toNat < v.toNat := by
  obtain ⟨hi, hhi, lo, hlo, hbounds, rfl⟩ := h
  constructor
  · intro hlt
    exact ⟨hi, hhi, lo, hlo, by omega⟩
  · rintro ⟨v, hv, w, hw, hlt⟩
    have hle := UInt32.le_iff_toNat_le.mp (hbounds v hv).2
    have hge := UInt32.le_iff_toNat_le.mp (hbounds w hw).1
    omega

/-- Samples that were observed within so many seconds of an instant. -/
def nearby (samples : List WaitSample) (window : ℤ) (newest : Option Instant) : List WaitSample :=
  samples.filter fun s ↦ newest.any (·.within window s.observedAt)

theorem recent_eq_nearby (samples : List WaitSample) (window : ℤ) :
    recent samples window =
      nearby samples window (Instant.latest? (samples.map (·.observedAt))) := by
  unfold recent nearby
  cases Instant.latest? (samples.map (·.observedAt)) <;> simp

theorem spread_of_length_lt (h : waits.length < 2) : greatest waits - least waits = 0 := by
  match waits, h with
  | [], _ => rfl
  | [w], _ => exact UInt32.sub_self w

/-- A lone sample needs no case of its own. -/
theorem check?_eq (entityName : String) (samples : List WaitSample) (window : ℤ)
    (threshold : UInt32) :
    check? entityName samples window threshold =
      let kept := recent samples window
      let spread := greatest (kept.map (·.wait)) - least (kept.map (·.wait))
      if spread ≤ threshold then none
      else some ⟨entityName, spread, kept.map fun s ↦ (s.source, s.wait)⟩ := by
  unfold check?
  dsimp only
  refine if_congr ?_ rfl rfl
  rw [Bool.or_eq_true, decide_eq_true_eq, decide_eq_true_eq, or_iff_right_iff_imp]
  intro h
  rw [spread_of_length_lt (by simpa using h)]
  exact UInt32.zero_le

/-- There is a report if and only if the recent waits differ by more than the threshold. -/
theorem check?_reports (entityName : String) (samples : List WaitSample) (window : ℤ)
    (threshold : UInt32) :
    let kept := recent samples window
    ((check? entityName samples window threshold).isSome ↔ ∃ s ∈ kept, ∃ t ∈ kept,
      threshold.toNat + t.wait.toNat < s.wait.toNat) ∧
    ∀ report ∈ check? entityName samples window threshold,
      report.entityName = entityName ∧ report.values = kept.map (fun s ↦ (s.source, s.wait)) ∧
        IsSpread (kept.map (·.wait)) report.spread.toNat := by
  intro kept
  rw [check?_eq]
  change ((if _ ≤ _ then none else _ : Option WaitDiscrepancy).isSome ↔ _) ∧ _
  by_cases hne : kept = []
  · simp [kept, show recent samples window = [] from hne, greatest, least]
  · have hspread : IsSpread (kept.map (·.wait)) _ := isSpread_of_ne_nil (by simpa using hne)
    have hlt := hspread.lt_iff threshold.toNat
    simp only [List.mem_map, exists_exists_and_eq_and] at hlt
    rw [← hlt, ← UInt32.lt_iff_toNat_lt, ← UInt32.not_le]
    dsimp only
    split
    · rename_i hle
      exact ⟨⟨nofun, fun h ↦ absurd hle h⟩, nofun⟩
    · rename_i hgt
      refine ⟨⟨fun _ ↦ hgt, fun _ ↦ rfl⟩, ?_⟩
      rintro report ⟨⟩
      exact ⟨rfl, rfl, hspread⟩

end WaitDiscrepancy

namespace Merge

open Sighting WaitDiscrepancy

/-- The waits that contributors tell, each with its source and the time it was observed. -/
def samplesOf (family : List Sighting) : List WaitSample :=
  family.filterMap fun s ↦ s.entity.waitTime.map fun wait ↦ ⟨s.source, wait, s.observedAt⟩

/-- What is reported of an entity whose contributors tell such samples. Those that are kept were
observed within the window of the newest one. -/
structure Judges (policy : Policy) (samples : List WaitSample) (newest : Option Instant)
    (kept : List WaitSample) (e : LiveEntity) (report : Option WaitDiscrepancy) : Prop where
  latest : Instant.IsLatest (samples.map (·.observedAt)) newest
  recent : kept = nearby samples (windowSeconds policy) newest
  reported : report.isSome ↔
    ∃ s ∈ kept, ∃ t ∈ kept, policy.discrepancyThreshold.toNat + t.wait.toNat < s.wait.toNat
  told : ∀ r ∈ report, r.entityName = e.name ∧ r.values = kept.map (fun s ↦ (s.source, s.wait)) ∧
    IsSpread (kept.map (·.wait)) r.spread.toNat
  /-- Kept samples were observed within the window of each other, up to leap seconds. -/
  together : ∀ s ∈ kept, ∀ t ∈ kept,
    (s.observedAt.since t.observedAt).natAbs < (windowSeconds policy + 2) * 1000000000 ∧
      ((∀ u ∈ newest, ¬ u.IsLeap) → ¬ s.observedAt.IsLeap → ¬ t.observedAt.IsLeap →
        s.observedAt.within (windowSeconds policy) t.observedAt)

/-- The wait reports, one at most for each merged entity and in the order of the entities. -/
structure ReportsWaits (policy : Policy) (ordered : List (String × LiveReport))
    (resolution : Resolution) (judgements : List (Option WaitDiscrepancy)) : Prop where
  made : List.Forall₂ (Makes policy.rounding) (families (sightings ordered))
    resolution.report.entities
  judged : List.Forall₂
    (fun merged report ↦
      ∃ newest kept, Judges policy (samplesOf merged.1) newest kept merged.2 report)
    ((families (sightings ordered)).zip resolution.report.entities) judgements
  reports : resolution.waitDiscrepancies = judgements.reduceOption

section Judged

variable {policy : Policy} {ordered : List (String × LiveReport)} {samples : List WaitSample}

theorem takeIn_foldl_waits (key : Option String) (s : Sighting) (rest : List Sighting) :
    (rest.foldl Merged.takeIn (seeded key s)).waits = samplesOf (s :: rest) := by
  have hsample : ∀ t : Sighting, sampleOf t.source t.entity t.observedAt =
      (t.entity.waitTime.map fun wait ↦ ⟨t.source, wait, t.observedAt⟩).toList := by
    intro t
    unfold sampleOf
    cases t.entity.waitTime <;> rfl
  induction rest using List.reverseRecOn with
  | nil =>
    rw [samplesOf, ← List.nil_append [s], filterMap_concat]
    exact hsample s
  | append_singleton rest last ih =>
    rw [List.foldl_append, samplesOf, ← List.cons_append, filterMap_concat, ← samplesOf, ← ih,
      ← hsample last]
    rfl

theorem gathered_waits {all : List Sighting} {s : Sighting} (h : Founds all s) :
    (gathered all s).waits = samplesOf (family all s) := by
  rw [family_of_founds h]
  exact takeIn_foldl_waits _ s _

theorem le_newest {newest : Option Instant} {s : WaitSample} {window : ℤ}
    (h : Instant.IsLatest (samples.map (·.observedAt)) newest)
    (hs : s ∈ nearby samples window newest) :
    ∃ u, newest = some u ∧ s.observedAt ≤ u ∧ u.within window s.observedAt := by
  obtain ⟨hmem, hnear⟩ := List.mem_filter.mp hs
  obtain ⟨u, rfl, hwithin⟩ := (Option.any_eq_true _ _).mp hnear
  exact ⟨u, rfl, h.2 _ (List.mem_map_of_mem hmem), hwithin⟩

theorem judges_check (policy : Policy) (samples : List WaitSample) (e : LiveEntity) :
    Judges policy samples (Instant.latest? (samples.map (·.observedAt)))
      (recent samples (windowSeconds policy)) e
      (check? e.name samples (windowSeconds policy) policy.discrepancyThreshold) := by
  have hnewest := Instant.latest?_isLatest (samples.map (·.observedAt))
  obtain ⟨hreported, htold⟩ :=
    check?_reports e.name samples (windowSeconds policy) policy.discrepancyThreshold
  have hkept := recent_eq_nearby samples (windowSeconds policy)
  refine ⟨hnewest, hkept, hreported, htold, ?_⟩
  intro s hs t ht
  rw [hkept] at hs ht
  obtain ⟨u, hu, hsu, hws⟩ := le_newest hnewest hs
  obtain ⟨v, hv, htv, hwt⟩ := le_newest hnewest ht
  obtain rfl : u = v := Option.some.inj (hu.symm.trans hv)
  refine ⟨Instant.since_lt_of_within hsu htv hws hwt, ?_⟩
  intro hregular hsr htr
  exact Instant.within_of_regular (hregular u hu) hsr htr hsu htv hws hwt

theorem resolveOrdered_reportsWaits (policy : Policy) (richest : LiveReport)
    (h : (ordered.map (·.1)).Nodup) :
    ∃ judgements,
      ReportsWaits policy ordered (resolveOrdered policy richest ordered) judgements := by
  have hmerged : mergeEntities ordered =
      (founders (sightings ordered)).map (gathered (sightings ordered)) := by
    rw [mergeEntities_eq_foldl, foldl_add (sightings_precedes h)]
  let check : Merged → Option WaitDiscrepancy := fun m ↦
    check? m.live.name m.waits (windowSeconds policy) policy.discrepancyThreshold
  refine ⟨(founders (sightings ordered)).map fun s ↦ check (gathered (sightings ordered) s),
    (resolveOrdered_conserves policy richest ordered h).made, ?_, ?_⟩
  · rw [entities_eq policy richest h, families, List.zip_map', List.forall₂_map_left_iff,
      List.forall₂_map_right_iff, List.forall₂_same]
    intro s hs
    have hcheck := judges_check policy (samplesOf (family (sightings ordered) s))
      ((gathered (sightings ordered) s).finish policy.rounding)
    dsimp only [check]
    rw [gathered_waits (mem_founders.mp hs).2]
    exact ⟨_, _, hcheck⟩
  · change (mergeEntities ordered).filterMap check = _
    rw [hmerged, List.filterMap_map, List.reduceOption, List.filterMap_map]
    rfl

end Judged

section Resolve

variable {policy : Policy} {ranking : List String} {reports : List (String × LiveReport)}

/-- Neither window nor threshold has a say in the merge. -/
theorem resolve_report_congr (windowMinutes discrepancyThreshold : UInt32) :
    (resolve { policy with windowMinutes, discrepancyThreshold } ranking reports).map (·.report) =
      (resolve policy ranking reports).map (·.report) := by
  unfold resolve
  dsimp only
  cases order (ranking ++ policy.priority) reports with
  | nil => rfl
  | cons first rest => simp only [Except.map, resolveOrdered]

/-- Of every map of reports, the merged entities whose recent waits differ too much are reported,
each once and in their order, and whatever is reported has no say in the merge. -/
theorem resolve_reportsWaits (policy : Policy) (ranking : List String)
    (h : (reports.map (·.1)).Nodup) :
    ∃ ordered, ordered.Perm reports ∧
      ordered.map (·.1) = effectiveIds ranking policy.priority (reports.map (·.1)) ∧
      (∀ windowMinutes discrepancyThreshold,
        (resolve { policy with windowMinutes, discrepancyThreshold } ranking reports).map
          (·.report) = (resolve policy ranking reports).map (·.report)) ∧
      (reports = [] ∧ resolve policy ranking reports = .error ⟨"unknown"⟩ ∨
        ∃ resolution judgements, resolve policy ranking reports = .ok resolution ∧
          ReportsWaits policy ordered resolution judgements) := by
  refine ⟨order (ranking ++ policy.priority) reports, order_perm h,
    order_effectiveIds h ranking policy.priority, resolve_report_congr, ?_⟩
  by_cases hne : reports = []
  · rw [resolve, hne, order_nil]
    exact .inl ⟨rfl, rfl⟩
  · obtain ⟨first, rest, ho⟩ := exists_order_cons h hne (ranking ++ policy.priority)
    have hperm : (order (ranking ++ policy.priority) reports).Perm reports := order_perm h
    have hdistinct := (hperm.map (·.1)).nodup_iff.mpr h
    obtain ⟨judgements, hjudged⟩ := resolveOrdered_reportsWaits policy first.2 hdistinct
    rw [ho] at hjudged ⊢
    exact .inr ⟨_, judgements, resolve_of_order ho, hjudged⟩

end Resolve

def midnight : Instant := { Instant.epoch with day := 17167 }

/-- One coaster as three sources see it at the turn of a year that a leap second puts off: a minute
before midnight, within the leap second, and at midnight. -/
def newYearReports : List (String × LiveReport) := [
  ("themeparks-wiki", {
    source := "themeparks-wiki", parkExternalId := "w"
    fetchedAt := { midnight with day := 17166, second := 86340, second_lt := by decide }
    entities := [{ ride "themeparks-wiki" "1" "Taron" with waitTime := some 10 }] }),
  ("queue-times", {
    source := "queue-times", parkExternalId := "56"
    fetchedAt := { day := 17166, second := 86399, nano := 1900000000 }
    entities := [{ ride "queue-times" "7" "Taron" with waitTime := some 60 }] }),
  ("wartezeiten", {
    source := "wartezeiten", parkExternalId := "z", fetchedAt := midnight
    entities := [{ ride "wartezeiten" "t" "TARON" with waitTime := some 60 }] })]

theorem resolve_reportsWaits_newYear :
    (newYearReports.map (·.1)).Nodup ∧ ∃ ordered, ordered.Perm newYearReports ∧
      ordered.map (·.1) =
        effectiveIds [] ({} : Policy).priority (newYearReports.map (·.1)) ∧
      (∀ windowMinutes discrepancyThreshold,
        (resolve { windowMinutes, discrepancyThreshold } [] newYearReports).map (·.report) =
          (resolve { windowMinutes := 1 } [] newYearReports).map (·.report)) ∧
      (newYearReports = [] ∧
          resolve { windowMinutes := 1 } [] newYearReports = .error ⟨"unknown"⟩ ∨
        ∃ resolution judgements,
          resolve { windowMinutes := 1 } [] newYearReports = .ok resolution ∧
            ReportsWaits { windowMinutes := 1 } ordered resolution judgements) := by
  have hids : (newYearReports.map (·.1)).Nodup := by decide
  exact ⟨hids, resolve_reportsWaits { windowMinutes := 1 } [] hids⟩

/-- What is reported together need not lie within the window: a minute with a leap second counts as
sixty seconds up to the midnight after it, but as more up to a time within that second. -/
theorem leapSecond_reported_apart :
    ((resolve { windowMinutes := 1 } [] newYearReports).toOption.map (·.waitDiscrepancies) =
      some [⟨"Taron", 50, [("themeparks-wiki", 10), ("queue-times", 60), ("wartezeiten", 60)]⟩]) ∧
    ∃ first ∈ newYearReports, ∃ second ∈ newYearReports,
      first.1 = "themeparks-wiki" ∧ second.1 = "queue-times" ∧
        ¬ first.2.fetchedAt.within (windowSeconds { windowMinutes := 1 }) second.2.fetchedAt := by
  refine ⟨by decide +kernel, _, List.mem_cons_self, _,
    List.mem_cons_of_mem _ List.mem_cons_self, rfl, rfl, ?_⟩
  decide

end Merge

end ParkFusion
