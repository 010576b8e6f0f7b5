import ParkFusion.Proofs.ReportFields
import ParkFusion.Provider.QueueTimes

namespace ParkFusion

/-- Every land that an entity refers to is a land of the report. -/
def LiveReport.LandsFound (r : LiveReport) : Prop :=
  ∀ e ∈ r.entities, ∀ id, e.landExternalId = some id →
    ∃ land ∈ r.lands.getD [], land.externalId = id

/-- No entity refers to a land. -/
def LiveReport.Landless (r : LiveReport) : Prop :=
  ∀ e ∈ r.entities, e.landExternalId = none

/-- A report whose references are valid has lands, if it has references. -/
theorem LiveReport.LandsFound.exists_land {r : LiveReport} (h : r.LandsFound)
    (hreferred : ¬ r.Landless) : ∃ land lands, r.lands = some (land :: lands) := by
  unfold Landless at hreferred
  push Not at hreferred
  obtain ⟨e, he, hne⟩ := hreferred
  obtain ⟨id, hid⟩ := Option.ne_none_iff_exists'.mp hne
  obtain ⟨land, hland, -⟩ := h e he id hid
  cases hlands : r.lands with
  | none =>
    rw [hlands] at hland
    cases hland
  | some lands =>
    rw [hlands] at hland
    obtain ⟨first, rest, rfl⟩ := List.exists_cons_of_ne_nil (List.ne_nil_of_mem hland)
    exact ⟨first, rest, rfl⟩

namespace Merge

open Sighting

section Origins

variable {policy : Policy} {richest : LiveReport} {ordered : List (String × LiveReport)}
variable {entry : String × LiveReport} {e : LiveEntity}

theorem sightingsOf_entities (entry : String × LiveReport) :
    (sightingsOf entry).map (·.entity) = entry.2.entities := by
  rw [sightingsOf, List.map_map]
  exact List.zipIdx_map_fst 0 _

theorem mem_sightings_entity {s : Sighting} (hs : s ∈ sightings ordered) :
    ∃ entry ∈ ordered, s.entity ∈ entry.2.entities := by
  obtain ⟨entry, he, hse⟩ := List.mem_flatMap.mp hs
  exact ⟨entry, he, sightingsOf_entities entry ▸ List.mem_map_of_mem hse⟩

theorem exists_sighting (he : entry ∈ ordered) (hmem : e ∈ entry.2.entities) :
    ∃ s ∈ sightings ordered, s.entity = e := by
  rw [← sightingsOf_entities entry] at hmem
  obtain ⟨s, hs, hse⟩ := List.mem_map.mp hmem
  exact ⟨s, List.mem_flatMap.mpr ⟨entry, he, hs⟩, hse⟩

theorem mem_entities (policy : Policy) (richest : LiveReport) (h : (ordered.map (·.1)).Nodup) :
    e ∈ (resolveOrdered policy richest ordered).report.entities ↔
      ∃ s ∈ founders (sightings ordered),
        (gathered (sightings ordered) s).finish policy.rounding = e := by
  rw [entities_eq policy richest h, List.mem_map]

theorem founder_combines {all : List Sighting} {s : Sighting} (hs : s ∈ founders all)
    (rounding : UInt32) : Combines rounding (family all s) ((gathered all s).finish rounding) :=
  combines_of_makes (gathered_makes (mem_founders.mp hs).2 rounding)

theorem exists_of_merged_land (h : (ordered.map (·.1)).Nodup)
    (he : e ∈ (resolveOrdered policy richest ordered).report.entities) {id : String}
    (hid : e.landExternalId = some id) :
    ∃ entry ∈ ordered, ∃ f ∈ entry.2.entities, f.landExternalId = some id := by
  obtain ⟨founder, hfounder, rfl⟩ := (mem_entities policy richest h).mp he
  -- the land is the first that its family knows
  rw [(founder_combines hfounder policy.rounding).land] at hid
  obtain ⟨s, hs, hland⟩ := List.exists_of_findSome?_eq_some hid
  have hsighting := (family_sublist (founder_mem hfounder)).subset hs
  obtain ⟨entry, hentry, hmem⟩ := mem_sightings_entity hsighting
  exact ⟨entry, hentry, s.entity, hmem, hland⟩

theorem landless_of_merged (policy : Policy) (richest : LiveReport)
    (h : (ordered.map (·.1)).Nodup) (hentry : entry ∈ ordered)
    (hlandless : (resolveOrdered policy richest ordered).report.Landless) : entry.2.Landless := by
  intro e he
  obtain ⟨s, hs, rfl⟩ := exists_sighting hentry he
  obtain ⟨founder, hfounder, hfamily⟩ := exists_founder hs
  have hnone := hlandless _ ((mem_entities policy richest h).mpr ⟨founder, hfounder, rfl⟩)
  rw [(founder_combines hfounder policy.rounding).land, List.findSome?_eq_none_iff] at hnone
  exact hnone s hfamily

end Origins

/-- Of the reports only one, in which every reference is valid, says anything of lands. The others
may have an empty list of them. -/
structure TellsLands (reports : List (String × LiveReport)) (entry : String × LiveReport) :
    Prop where
  mem : entry ∈ reports
  found : entry.2.LandsFound
  unlisted : ∀ other ∈ reports, other ≠ entry → other.2.lands.getD [] = []
  landless : ∀ other ∈ reports, other ≠ entry → other.2.Landless

section Resolve

variable {policy : Policy} {richest : LiveReport} {ordered reports : List (String × LiveReport)}
variable {entry : String × LiveReport} {e : LiveEntity} {id : String}

theorem TellsLands.perm (h : TellsLands reports entry) (hp : ordered.Perm reports) :
    TellsLands ordered entry :=
  ⟨hp.symm.subset h.mem, h.found, fun other ho ↦ h.unlisted other (hp.subset ho),
    fun other ho ↦ h.landless other (hp.subset ho)⟩

theorem TellsLands.exists_reference (h : TellsLands ordered entry)
    (hids : (ordered.map (·.1)).Nodup)
    (he : e ∈ (resolveOrdered policy richest ordered).report.entities)
    (hid : e.landExternalId = some id) : ∃ f ∈ entry.2.entities, f.landExternalId = some id := by
  obtain ⟨other, hother, f, hf, hland⟩ := exists_of_merged_land hids he hid
  by_cases heq : other = entry
  · exact heq ▸ ⟨f, hf, hland⟩
  · rw [h.landless other hother heq f hf] at hland
    cases hland

theorem lands_isFirstValue (policy : Policy) (richest : LiveReport)
    (ordered : List (String × LiveReport)) :
    IsFirstValue (·.2.lands) ordered (resolveOrdered policy richest ordered).report.lands :=
  isFirstValue_findSome? (fun e : String × LiveReport ↦ e.2.lands) ordered

theorem TellsLands.kept_lands (h : TellsLands ordered entry) :
    (resolveOrdered policy richest ordered).report.lands = entry.2.lands ∨
      (resolveOrdered policy richest ordered).report.lands = some [] := by
  have hfirst := lands_isFirstValue policy richest ordered
  cases hlands : (resolveOrdered policy richest ordered).report.lands with
  | none =>
    rw [hlands] at hfirst
    exact Or.inl (hfirst entry h.mem).symm
  | some lands =>
    rw [hlands] at hfirst
    obtain ⟨before, first, after, hsplit, hsome, -⟩ := hfirst
    replace hsome : first.2.lands = some lands := hsome
    -- a list that comes first and is not the entry's own is empty
    by_cases heq : first = entry
    · exact Or.inl (heq ▸ hsome.symm)
    · have hmem : first ∈ ordered := hsplit ▸ List.mem_append_right _ List.mem_cons_self
      have hempty := h.unlisted first hmem heq
      rw [hsome] at hempty
      exact Or.inr (congrArg some hempty)

theorem TellsLands.landsFound_iff (h : TellsLands ordered entry)
    (hids : (ordered.map (·.1)).Nodup) (policy : Policy) (richest : LiveReport) :
    (resolveOrdered policy richest ordered).report.LandsFound ↔
      (resolveOrdered policy richest ordered).report.lands = entry.2.lands ∨ entry.2.Landless := by
  constructor
  · intro hfound
    refine h.kept_lands.imp_right fun hempty ↦
      landless_of_merged policy richest hids h.mem fun e he ↦ ?_
    -- no reference is valid in an empty list
    refine Option.eq_none_iff_forall_ne_some.mpr fun id hid ↦ ?_
    obtain ⟨land, hland, -⟩ := hfound e he id hid
    rw [hempty] at hland
    cases hland
  · intro hkept e he id hid
    obtain ⟨f, hf, hland⟩ := h.exists_reference hids he hid
    rcases hkept with hlands | hlandless
    · rw [hlands]
      exact h.found f hf id hland
    · rw [hlandless f hf] at hland
      cases hland

/-- The entry's own lands are kept exactly if no entry before it has an empty list of lands. -/
theorem TellsLands.kept_iff (h : TellsLands ordered entry) (hreferred : ¬ entry.2.Landless) :
    (resolveOrdered policy richest ordered).report.lands = entry.2.lands ↔
      ∃ before after, ordered = before ++ entry :: after ∧
        ∀ other ∈ before, other.2.lands = none := by
  obtain ⟨land, lands, hown⟩ := h.found.exists_land hreferred
  have hfirst := lands_isFirstValue policy richest ordered
  constructor
  · intro hkept
    rw [hkept, hown] at hfirst
    obtain ⟨before, first, after, hsplit, hsome, hbefore⟩ := hfirst
    replace hsome : first.2.lands = some (land :: lands) := hsome
    have hmem : first ∈ ordered := hsplit ▸ List.mem_append_right _ List.mem_cons_self
    have heq : first = entry := by
      by_contra hne
      have hempty := h.unlisted first hmem hne
      rw [hsome] at hempty
      cases hempty
    exact ⟨before, after, heq ▸ hsplit, hbefore⟩
  · rintro ⟨before, after, rfl, hbefore⟩
    have hnone : before.findSome? (fun e : String × LiveReport ↦ e.2.lands) = none :=
      List.findSome?_eq_none_iff.mpr hbefore
    change (before ++ entry :: after).findSome? (fun e : String × LiveReport ↦ e.2.lands) = _
    rw [List.findSome?_append, hnone, Option.none_or, List.findSome?_cons, hown]

/-- If only one report says anything of lands, its references stay valid in the merge exactly if its
own lands are those that are kept, that is, if no empty list of lands comes before them. -/
theorem resolve_landsFound_iff (policy : Policy) (ranking : List String)
    (hids : (reports.map (·.1)).Nodup) (h : TellsLands reports entry) :
    ∃ ordered resolution, ordered.Perm reports ∧
      ordered.map (·.1) = effectiveIds ranking policy.priority (reports.map (·.1)) ∧
      resolve policy ranking reports = .ok resolution ∧
      (resolution.report.LandsFound ↔
        resolution.report.lands = entry.2.lands ∨ entry.2.Landless) ∧
      (resolution.report.LandsFound ↔ entry.2.Landless ∨ ∃ before after,
        ordered = before ++ entry :: after ∧ ∀ other ∈ before, other.2.lands = none) ∧
      ((∀ other ∈ reports, other ≠ entry → other.2.lands = none) →
        resolution.report.LandsFound) := by
  obtain ⟨richest, ordered, hperm, hdistinct, hkeys, hresolve⟩ :=
    exists_resolveOrdered policy ranking hids (List.ne_nil_of_mem h.mem)
  have htells := h.perm hperm
  have hfound := htells.landsFound_iff hdistinct policy richest
  refine ⟨ordered, _, hperm, hkeys, hresolve, hfound, ?_, fun halone ↦ hfound.mpr (.inl ?_)⟩
  · rw [hfound]
    by_cases hlandless : entry.2.Landless
    · exact iff_of_true (.inr hlandless) (.inl hlandless)
    · rw [or_iff_left hlandless, or_iff_right hlandless, htells.kept_iff hlandless]
  · exact (lands_isFirstValue policy richest ordered).eq_of_alone htells.mem fun other ho hne ↦
      halone other (hperm.subset ho) hne

end Resolve

end Merge

namespace QueueTimes

/-- The rides of the board, land by land, and then those outside any land. -/
def Board.allRides (b : Board) : List Ride :=
  b.lands.flatMap (·.rides) ++ b.rides

/-- The land in which the ride at a place of all rides stands. -/
def landAt? : List ThemedArea → Nat → Option ThemedArea
  | [], _ => none
  | land :: lands, place =>
    if place < land.rides.length then some land else landAt? lands (place - land.rides.length)

/-- How the entities and the lands of a live report tell the same of the rides of a board. -/
structure Board.Agrees (b : Board) (r : LiveReport) : Prop where
  rides : List.Forall₂ (fun ride e ↦ ∃ land, e = toLive land ride) b.allRides r.entities
  land_iff : ∀ place e, r.entities[place]? = some e → ∀ id,
    e.landExternalId = some (idText id) ↔ ∃ land ∈ landAt? b.lands place, land.id = id
  listed : ∀ e ∈ r.entities, ∀ id, e.landExternalId = some id →
    ∃ land ∈ r.lands.getD [], land.externalId = id ∧ e.externalId ∈ land.entityExternalIds
  carried : ∀ land ∈ r.lands.getD [], ∀ id ∈ land.entityExternalIds,
    ∃ e ∈ r.entities, e.externalId = id ∧ e.landExternalId = some land.externalId

section Board

variable {b : Board}

theorem idText_injective : Function.Injective idText := by
  intro id id' h
  have hdigits : Nat.toDigits 10 id.toNat = Nat.toDigits 10 id'.toNat := by
    simpa [idText, Nat.toString_eq_ofList_toDigits] using congrArg String.toList h
  have hnat : id.toNat = id'.toNat := by
    calc id.toNat
      _ = Nat.ofDigitChars 10 (Nat.toDigits 10 id.toNat) 0 := Nat.ofDigitChars_ten_toDigits.symm
      _ = Nat.ofDigitChars 10 (Nat.toDigits 10 id'.toNat) 0 := by rw [hdigits]
      _ = id'.toNat := Nat.ofDigitChars_ten_toDigits
  exact UInt64.toNat_inj.mp hnat

theorem placedRides_cons (land : ThemedArea) (lands : List ThemedArea) (rides : List Ride) :
    (Board.mk (land :: lands) rides).placedRides =
      land.rides.map (some land.id, ·) ++ (Board.mk lands rides).placedRides := by
  rw [Board.placedRides, Board.placedRides, List.flatMap_cons, List.append_assoc]

theorem placedRides_rides (b : Board) : b.placedRides.map (·.2) = b.allRides := by
  simp [Board.placedRides, Board.allRides, List.map_flatMap, Function.comp_def]

theorem placedRides_land (lands : List ThemedArea) (rides : List Ride) {place : Nat}
    {placed : Option UInt64 × Ride}
    (h : (Board.mk lands rides).placedRides[place]? = some placed) :
    placed.1 = (landAt? lands place).map (·.id) := by
  induction lands generalizing place with
  | nil =>
    obtain ⟨ride, -, rfl⟩ := List.mem_map.mp (List.mem_of_getElem? h)
    rfl
  | cons land lands ih =>
    rw [placedRides_cons, List.getElem?_append, List.length_map] at h
    rw [landAt?]
    split at h
    · obtain ⟨ride, -, rfl⟩ := List.mem_map.mp (List.mem_of_getElem? h)
      rename_i hplace
      rw [if_pos hplace]
      rfl
    · rename_i hplace
      rw [if_neg hplace]
      exact ih h

theorem mem_placedRides {id : UInt64} {ride : Ride} :
    (some id, ride) ∈ b.placedRides ↔ ∃ land ∈ b.lands, land.id = id ∧ ride ∈ land.rides := by
  simp only [Board.placedRides, List.mem_append, List.mem_flatMap, List.mem_map, Prod.mk.injEq,
    Option.some.injEq, reduceCtorEq, false_and, and_false, exists_false, or_false]
  constructor
  · rintro ⟨land, hland, _, hride, rfl, rfl⟩
    exact ⟨land, hland, rfl, hride⟩
  · rintro ⟨land, hland, rfl, hride⟩
    exact ⟨land, hland, ride, hride, rfl, rfl⟩

theorem toReport_lands (b : Board) (park : String) (fetchedAt : Instant) :
    (b.toReport park fetchedAt).lands.getD [] = b.lands.map toLand := by
  unfold Board.toReport
  dsimp only
  split
  · rename_i hempty
    rw [List.isEmpty_iff.mp hempty]
    rfl
  · rfl

theorem toReport_land_iff {park : String} {fetchedAt : Instant} {place : Nat} {e : LiveEntity}
    (he : (b.toReport park fetchedAt).entities[place]? = some e) (id : UInt64) :
    e.landExternalId = some (idText id) ↔ ∃ land ∈ landAt? b.lands place, land.id = id := by
  rw [Board.toReport, List.getElem?_map, Option.map_eq_some_iff] at he
  obtain ⟨placed, hplaced, rfl⟩ := he
  have hland : (toLive placed.1 placed.2).landExternalId =
      ((landAt? b.lands place).map (·.id)).map idText :=
    congrArg (Option.map idText) (placedRides_land b.lands b.rides hplaced)
  rw [hland, Option.map_map, Option.map_eq_some_iff]
  exact exists_congr fun land ↦ and_congr_right fun _ ↦ idText_injective.eq_iff

theorem toReport_agrees (b : Board) (park : String) (fetchedAt : Instant) :
    b.Agrees (b.toReport park fetchedAt) where
  rides := by
    rw [← placedRides_rides, List.forall₂_map_left_iff, Board.toReport, List.forall₂_map_right_iff,
      List.forall₂_same]
    exact fun placed _ ↦ ⟨placed.1, rfl⟩
  land_iff place e he id := toReport_land_iff he id
  listed e he id hid := by
    obtain ⟨⟨land?, ride⟩, hplaced, rfl⟩ := List.mem_map.mp he
    obtain ⟨n, rfl, rfl⟩ := Option.map_eq_some_iff.mp hid
    obtain ⟨land, hland, rfl, hride⟩ := mem_placedRides.mp hplaced
    rw [toReport_lands]
    exact ⟨toLand land, List.mem_map_of_mem hland, rfl, List.mem_map_of_mem hride⟩
  carried land hland id hid := by
    rw [toReport_lands] at hland
    obtain ⟨area, harea, rfl⟩ := List.mem_map.mp hland
    obtain ⟨ride, hride, rfl⟩ := List.mem_map.mp hid
    have hplaced := mem_placedRides.mpr ⟨area, harea, rfl, hride⟩
    exact ⟨toLive (some area.id) ride, List.mem_map.mpr ⟨_, hplaced, rfl⟩, rfl, rfl⟩

end Board

theorem toReport_landsFound (b : Board) (park : String) (fetchedAt : Instant) :
    (b.toReport park fetchedAt).LandsFound := by
  intro e he id hid
  obtain ⟨land, hland, hid', -⟩ := (toReport_agrees b park fetchedAt).listed e he id hid
  exact ⟨land, hland, hid'⟩

/-- The rides of a board and their lands refer to each other. In a merge with reports that have no
lands, or an empty list of them, and refer to none, no reference is left without its land, unless a
report with an empty list comes first. -/
theorem toReport_refers (b : Board) (park : String) (fetchedAt : Instant) :
    b.Agrees (b.toReport park fetchedAt) ∧
    ∀ (policy : Merge.Policy) (ranking : List String) (id : String)
      (reports : List (String × LiveReport)), (reports.map (·.1)).Nodup →
      (id, b.toReport park fetchedAt) ∈ reports →
      (∀ other ∈ reports, other.1 ≠ id → other.2.lands.getD [] = [] ∧ other.2.Landless) →
      ∃ ordered resolution, ordered.Perm reports ∧
        ordered.map (·.1) =
          Merge.effectiveIds ranking policy.priority (reports.map (·.1)) ∧
        Merge.resolve policy ranking reports = .ok resolution ∧
        (resolution.report.LandsFound ↔
          resolution.report.lands = (b.toReport park fetchedAt).lands ∨
            (b.toReport park fetchedAt).Landless) ∧
        (resolution.report.LandsFound ↔ (b.toReport park fetchedAt).Landless ∨
          ∃ before after, ordered = before ++ (id, b.toReport park fetchedAt) :: after ∧
            ∀ other ∈ before, other.2.lands = none) ∧
        ((∀ other ∈ reports, other.1 ≠ id → other.2.lands = none) →
          resolution.report.LandsFound) := by
  refine ⟨toReport_agrees b park fetchedAt, ?_⟩
  intro policy ranking id reports hids hmem hothers
  have hother : ∀ other ∈ reports, other ≠ (id, b.toReport park fetchedAt) → other.1 ≠ id :=
    fun other ho hne hid ↦ hne (List.inj_on_of_nodup_map hids ho hmem hid)
  have htells : Merge.TellsLands reports (id, b.toReport park fetchedAt) := {
    mem := hmem
    found := toReport_landsFound b park fetchedAt
    unlisted := fun other ho hne ↦ (hothers other ho (hother other ho hne)).1
    landless := fun other ho hne ↦ (hothers other ho (hother other ho hne)).2 }
  obtain ⟨ordered, resolution, hperm, hkeys, hresolve, hkept, hfirst, halone⟩ :=
    Merge.resolve_landsFound_iff policy ranking hids htells
  exact ⟨ordered, resolution, hperm, hkeys, hresolve, hkept, hfirst, fun h ↦
    halone fun other ho hne ↦ h other ho (hother other ho hne)⟩

def africaBoard : Board where
  lands := [⟨7, "Deep in Africa", [⟨101, "Black Mamba", true, some 25, none⟩,
    ⟨102, "Deep in Africa Boat", false, some 0, none⟩]⟩]
  rides := [⟨200, "Carousel", true, some 5, none⟩]

/-- The board beside a report that has its own entity for one of the rides of the land. -/
def africaReports (lands : Option (List Land)) : List (String × LiveReport) := [
  ("themeparks-wiki", {
    source := "themeparks-wiki", parkExternalId := "w", fetchedAt := .epoch
    entities := [Merge.ride "themeparks-wiki" "1" "BLACK MAMBA"], lands }),
  ("queue-times", africaBoard.toReport "56" .epoch)]

theorem africaReports_tellNothing (lands : Option (List Land)) (hlands : lands.getD [] = []) :
    ∀ other ∈ africaReports lands, other.1 ≠ "queue-times" →
      other.2.lands.getD [] = [] ∧ other.2.Landless := by
  simp [africaReports, LiveReport.Landless, Merge.ride, hlands]

theorem toReport_refers_africa :
    let reports := africaReports none
    ((reports.map (·.1)).Nodup ∧ ("queue-times", africaBoard.toReport "56" .epoch) ∈ reports ∧
      ∀ other ∈ reports, other.1 ≠ "queue-times" →
        other.2.lands.getD [] = [] ∧ other.2.Landless) ∧
    ∃ resolution, Merge.resolve {} [] reports = .ok resolution ∧ resolution.report.LandsFound := by
  intro reports
  have hids : (reports.map (·.1)).Nodup := by decide
  have hmem : ("queue-times", africaBoard.toReport "56" .epoch) ∈ reports := by
    simp [reports, africaReports]
  have hothers := africaReports_tellNothing none rfl
  have hnone : ∀ other ∈ reports, other.1 ≠ "queue-times" → other.2.lands = none := by
    simp [reports, africaReports]
  obtain ⟨-, hmerge⟩ := toReport_refers africaBoard "56" .epoch
  obtain ⟨ordered, resolution, -, -, hresolve, -, -, halone⟩ :=
    hmerge {} [] "queue-times" reports hids hmem hothers
  exact ⟨⟨hids, hmem, hothers⟩, resolution, hresolve, halone hnone⟩

/-- The empty list of a report that comes first hides the lands of the board. -/
theorem toReport_unfound_africa :
    let reports := africaReports (some [])
    ((reports.map (·.1)).Nodup ∧ ("queue-times", africaBoard.toReport "56" .epoch) ∈ reports ∧
      ∀ other ∈ reports, other.1 ≠ "queue-times" →
        other.2.lands.getD [] = [] ∧ other.2.Landless) ∧
    ∃ resolution, Merge.resolve {} [] reports = .ok resolution ∧
      ¬ resolution.report.LandsFound := by
  intro reports
  refine ⟨⟨by decide, by simp [reports, africaReports], africaReports_tellNothing (some []) rfl⟩, ?_⟩
  have hmerged : (Merge.resolve {} [] reports).toOption.map (fun resolution ↦
      (resolution.report.entities.map (·.landExternalId), resolution.report.lands)) =
        some ([some "7", some "7", none], some []) := by
    decide +kernel
  cases hresolve : Merge.resolve {} [] reports with
  | error f =>
    rw [hresolve] at hmerged
    cases hmerged
  | ok resolution =>
    refine ⟨resolution, rfl, fun hfound ↦ ?_⟩
    rw [hresolve] at hmerged
    obtain ⟨hreferences, hlands⟩ := Prod.mk.inj (Option.some.inj hmerged)
    have hrefers : some "7" ∈ resolution.report.entities.map (·.landExternalId) :=
      hreferences ▸ List.mem_cons_self
    obtain ⟨e, he, hid⟩ := List.mem_map.mp hrefers
    obtain ⟨land, hland, -⟩ := hfound e he "7" hid
    rw [hlands] at hland
    cases hland

end QueueTimes

end ParkFusion
