import ParkFusion.Proofs.WaitReports

namespace ParkFusion

section FirstValue

variable {α β : Type} {value? : β → Option α} {entries : List β}

/-- What the first entry that has a value has. -/
def IsFirstValue (value? : β → Option α) (entries : List β) : Option α → Prop
  | none => ∀ e ∈ entries, value? e = none
  | some v => ∃ before first after, entries = before ++ first :: after ∧ value? first = some v ∧
      ∀ e ∈ before, value? e = none

theorem isFirstValue_findSome? (value? : β → Option α) (entries : List β) :
    IsFirstValue value? entries (entries.findSome? value?) := by
  cases h : entries.findSome? value? with
  | none => exact List.findSome?_eq_none_iff.mp h
  | some v => exact List.findSome?_eq_some_iff.mp h

theorem IsFirstValue.eq_of_alone {result : Option α} {e : β}
    (h : IsFirstValue value? entries result) (he : e ∈ entries)
    (halone : ∀ other ∈ entries, other ≠ e → value? other = none) : result = value? e := by
  cases result with
  | none => exact (h e he).symm
  | some v =>
    obtain ⟨before, first, after, rfl, hv, -⟩ := h
    by_cases heq : first = e
    · rw [← heq, hv]
    · have hnone := halone first (List.mem_append_right _ List.mem_cons_self) heq
      rw [hnone] at hv
      cases hv

theorem forall₂_filter_filterMap {r : β → α → Prop} {p : β → Bool} {f : β → Option α}
    (hkept : ∀ b, p b → ∃ a, f b = some a ∧ r b a) (hleft : ∀ b, p b = false → f b = none)
    (l : List β) : List.Forall₂ r (l.filter p) (l.filterMap f) := by
  induction l with
  | nil => exact .nil
  | cons b l ih =>
    cases hp : p b with
    | true =>
      obtain ⟨a, hf, hr⟩ := hkept b hp
      rw [List.filter_cons_of_pos hp, List.filterMap_cons_some hf]
      exact .cons hr ih
    | false =>
      rw [List.filter_cons_of_neg (by simp [hp]), List.filterMap_cons_none (hleft b hp)]
      exact ih

end FirstValue

namespace Merge

open Sighting

/-- The first entry of the opening hours, if there is one. -/
def firstHours? (report : LiveReport) : Option OpeningHours :=
  report.openingHours.bind (·.head?)

/-- Whether the report has opening hours that begin with other times. -/
def Disagrees (kept : OpeningHours) (report : LiveReport) : Prop :=
  ∃ other ∈ firstHours? report,
    kept.openingTime ≠ other.openingTime ∨ kept.closingTime ≠ other.closingTime

instance (kept : OpeningHours) (report : LiveReport) : Decidable (Disagrees kept report) :=
  inferInstanceAs (Decidable (∃ other ∈ firstHours? report, _))

/-- The opening hours are those of the first source that has any, and of the later ones each that
disagrees is reported. -/
inductive KeepsHours (ordered : List (String × LiveReport)) :
    Option (List OpeningHours) → List HoursDiscrepancy → Prop
  | absent : (∀ entry ∈ ordered, firstHours? entry.2 = none) → KeepsHours ordered none []
  | kept {before entry after first rest discrepancies} :
      ordered = before ++ entry :: after → (∀ e ∈ before, firstHours? e.2 = none) →
      entry.2.openingHours = some (first :: rest) →
      List.Forall₂ (fun later d ↦ d.keptSource = entry.1 ∧ d.otherSource = later.1 ∧
        d.kept = first ∧ firstHours? later.2 = some d.other)
        (after.filter (Disagrees first ·.2)) discrepancies →
      KeepsHours ordered (some (first :: rest)) discrepancies

/-- What a resolution has of the reports as a whole. -/
structure Inherits (ordered : List (String × LiveReport)) (resolution : Resolution) : Prop where
  lands : IsFirstValue (·.2.lands) ordered resolution.report.lands
  crowdLevel : IsFirstValue (·.2.crowdLevel) ordered resolution.report.crowdLevel
  hours : KeepsHours ordered resolution.report.openingHours resolution.hoursDiscrepancies
  fetchedAt : Instant.IsLatest (ordered.map (·.2.fetchedAt)) (some resolution.report.fetchedAt)
  /-- Lands that one source alone has are kept. -/
  loneLands : ∀ entry ∈ ordered, (∀ other ∈ ordered, other ≠ entry → other.2.lands = none) →
    resolution.report.lands = entry.2.lands

section Hours

variable {entry : String × LiveReport}

theorem hoursOf_eq_none : hoursOf entry = none ↔ firstHours? entry.2 = none := by
  unfold hoursOf firstHours?
  rcases entry.2.openingHours with _ | _ | ⟨first, rest⟩ <;> simp

theorem hoursOf_eq_some {source : String} {hours : List OpeningHours}
    (h : hoursOf entry = some (source, hours)) :
    source = entry.1 ∧ ∃ first rest, hours = first :: rest ∧
      entry.2.openingHours = some (first :: rest) := by
  unfold hoursOf at h
  split at h
  · rename_i first rest hhours
    cases h
    exact ⟨rfl, first, rest, rfl, hhours⟩
  · cases h

/-- What is reported of one later source. -/
theorem check?_bind_hoursOf (keptSource : String) (first : OpeningHours)
    (rest : List OpeningHours) (entry : String × LiveReport) :
    ((hoursOf entry).bind fun (source, hours) ↦
      HoursDiscrepancy.check? keptSource (first :: rest) source hours) =
    ((firstHours? entry.2).filter fun other ↦
      first.openingTime ≠ other.openingTime ∨ first.closingTime ≠ other.closingTime).map
        fun other ↦ ⟨keptSource, entry.1, first, other⟩ := by
  unfold hoursOf firstHours?
  rcases entry.2.openingHours with _ | _ | ⟨other, others⟩
  · rfl
  · rfl
  · change HoursDiscrepancy.check? keptSource (first :: rest) entry.1 (other :: others) = _
    by_cases hagrees : first.openingTime = other.openingTime ∧ first.closingTime = other.closingTime
    · simp [HoursDiscrepancy.check?, hagrees]
    · simpa [HoursDiscrepancy.check?, hagrees] using not_and_or.mp hagrees

theorem later_discrepancies (keptSource : String) (first : OpeningHours) (rest : List OpeningHours)
    (after : List (String × LiveReport)) :
    List.Forall₂ (fun later d ↦ d.keptSource = keptSource ∧ d.otherSource = later.1 ∧
        d.kept = first ∧ firstHours? later.2 = some d.other)
      (after.filter (Disagrees first ·.2))
      ((after.filterMap hoursOf).filterMap fun (source, hours) ↦
        HoursDiscrepancy.check? keptSource (first :: rest) source hours) := by
  rw [List.filterMap_filterMap]
  apply forall₂_filter_filterMap
  · intro later hdisagrees
    obtain ⟨other, hother, hne⟩ := of_decide_eq_true hdisagrees
    rw [check?_bind_hoursOf, hother, Option.filter_some, if_pos (decide_eq_true hne)]
    exact ⟨_, rfl, rfl, rfl, rfl, rfl⟩
  · intro later hagrees
    rw [check?_bind_hoursOf, Option.map_eq_none_iff, Option.filter_eq_none_iff]
    intro other hother hne
    exact of_decide_eq_false hagrees ⟨other, hother, of_decide_eq_true hne⟩

theorem pickHours_keeps (ordered : List (String × LiveReport)) :
    KeepsHours ordered (pickHours ordered).1 (pickHours ordered).2 := by
  unfold pickHours
  split
  · rename_i hnone
    exact .absent fun entry he ↦ hoursOf_eq_none.mp (List.filterMap_eq_nil_iff.mp hnone entry he)
  · rename_i keptSource kept others hsome
    obtain ⟨before, entry, after, hsplit, hbefore, hentry, hothers⟩ :=
      List.filterMap_eq_cons_iff.mp hsome
    obtain ⟨rfl, first, rest, rfl, hhours⟩ := hoursOf_eq_some hentry
    rw [← hothers]
    exact .kept hsplit (fun e he ↦ hoursOf_eq_none.mp (hbefore e he)) hhours
      (later_discrepancies entry.1 first rest after)

end Hours

section Resolve

theorem resolveOrdered_inherits (policy : Policy) (first : String × LiveReport)
    (rest : List (String × LiveReport)) :
    Inherits (first :: rest) (resolveOrdered policy first.2 (first :: rest)) := by
  have hlands := isFirstValue_findSome? (fun e : String × LiveReport ↦ e.2.lands) (first :: rest)
  exact {
    lands := hlands
    crowdLevel := isFirstValue_findSome? _ _
    hours := pickHours_keeps _
    fetchedAt := Instant.latest?_isLatest ((first :: rest).map (·.2.fetchedAt))
    loneLands := fun entry he halone ↦ hlands.eq_of_alone he halone }

/-- Lands, crowd level and opening hours each come from one source, the first in the effective order
that has them, and opening hours of later sources that begin otherwise are reported. -/
theorem resolve_inherits (policy : Policy) (ranking : List String)
    {reports : List (String × LiveReport)} (h : (reports.map (·.1)).Nodup) (hne : reports ≠ []) :
    ∃ ordered resolution, ordered.Perm reports ∧
      ordered.map (·.1) = effectiveIds ranking policy.priority (reports.map (·.1)) ∧
      resolve policy ranking reports = .ok resolution ∧ Inherits ordered resolution := by
  obtain ⟨first, rest, ho⟩ := exists_order_cons h hne (ranking ++ policy.priority)
  have hperm : (order (ranking ++ policy.priority) reports).Perm reports := order_perm h
  have hids := order_effectiveIds h ranking policy.priority
  rw [ho] at hperm hids
  exact ⟨_, _, hperm, hids, resolve_of_order ho, resolveOrdered_inherits policy first rest⟩

end Resolve

def opens (hour : Nat) (h : hour < 18 := by decide) : OpeningHours := {
  hoursType := "OPERATING"
  openingTime := { Instant.epoch with
    day := 19875, second := hour * 3600, second_lt := by omega }
  closingTime := { Instant.epoch with day := 19875, second := 64800, second_lt := by decide } }

/-- Three sources: one has an empty list of opening hours, one has lands and a special hour before
the regular ones, and the last one has other opening hours. -/
def dayReports : List (String × LiveReport) := [
  ("wartezeiten", {
    source := "wartezeiten", parkExternalId := "z", fetchedAt := .epoch
    crowdLevel := some ⟨63.5, none⟩, openingHours := some [opens 10] }),
  ("queue-times", {
    source := "queue-times", parkExternalId := "56", fetchedAt := (opens 9).openingTime
    lands := some [⟨"3", "Klugheim", ["7"]⟩], openingHours := some [opens 9, opens 10] }),
  ("themeparks-wiki", {
    source := "themeparks-wiki", parkExternalId := "w", fetchedAt := (opens 8).openingTime
    openingHours := some [] })]

theorem resolve_inherits_day :
    (dayReports.map (·.1)).Nodup ∧ dayReports ≠ [] ∧
      ∃ ordered resolution, ordered.Perm dayReports ∧
        ordered.map (·.1) = effectiveIds [] ({} : Policy).priority (dayReports.map (·.1)) ∧
        resolve {} [] dayReports = .ok resolution ∧ Inherits ordered resolution := by
  have hids : (dayReports.map (·.1)).Nodup := by decide
  have hne : dayReports ≠ [] := List.cons_ne_nil _ _
  exact ⟨hids, hne, resolve_inherits {} [] hids hne⟩

end Merge

end ParkFusion
