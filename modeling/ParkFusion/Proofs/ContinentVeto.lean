import ParkFusion.Proofs.Double
import ParkFusion.Proofs.Partition

namespace ParkFusion

namespace Park

/-- Both continents are known, and they differ. -/
def Conflicts (p q : Park) : Prop :=
  ∃ c d, p.continent? = some c ∧ q.continent? = some d ∧ c ≠ d

theorem vetoes_iff {p q : Park} : p.vetoes q = true ↔ p.Conflicts q := by
  unfold vetoes Conflicts
  cases p.continent? <;> cases q.continent? <;> simp

instance (p q : Park) : Decidable (p.Conflicts q) :=
  decidable_of_iff (p.vetoes q = true) vetoes_iff

/-- Of two conflicting parks at least one conflicts with any third park of known continent. -/
theorem Conflicts.of_known {p q r : Park} (h : p.Conflicts q) (hr : r.continent?.isSome) :
    r.Conflicts p ∨ r.Conflicts q := by
  obtain ⟨c, d, hc, hd, hne⟩ := h
  obtain ⟨e, he⟩ := Option.isSome_iff_exists.mp hr
  by_cases hec : e = c
  · exact Or.inr ⟨e, d, he, hd, hec ▸ hne⟩
  · exact Or.inl ⟨e, c, he, hc, hec⟩

theorem Conflicts.irrefl (p : Park) : ¬ p.Conflicts p := by
  rintro ⟨c, d, hc, hd, hne⟩
  exact hne (Option.some.inj (hc.symm.trans hd))

theorem score_of_conflicts {p q : Park} (h : p.Conflicts q) : p.score q = 0 := by
  rw [score, if_pos (vetoes_iff.mpr h)]

end Park

namespace Matching

variable {threshold : Float} {overrides : Overrides} {pair : ParkMatch}

theorem declared_of_conflicts (ht : 0 < threshold)
    (h : (parkRule threshold overrides).Accepts pair) (hc : pair.left.Conflicts pair.right) :
    pair.method = .manualOverride ∧ pair.confidence = 1 ∧
      overrides.contains pair.left.name pair.right.name := by
  cases h with
  | declared _ hd => exact ⟨rfl, rfl, (declared_eq_contains _ _ _).symm.trans hd⟩
  | scored _ hs =>
    have hscore : threshold < Park.score _ _ := hs
    rw [Park.score_of_conflicts hc] at hscore
    exact absurd hscore (Double.lt_asymm ht)

/-- A pair across continents comes about by a declaration only. -/
theorem matched_conflict_declared (left right : List Park) (ht : 0 < threshold)
    (hp : pair ∈ ((parkRule threshold overrides).pairOff left right).matched)
    (hc : pair.left.Conflicts pair.right) :
    pair.method = .manualOverride ∧ pair.confidence = 1 ∧
      overrides.contains pair.left.name pair.right.name :=
  declared_of_conflicts ht (Rule.accepts_of_mem_matched hp) hc

def legolandBillund : Park :=
  { externalId := "1", source := "a", name := "Legoland", continent := some "Europe" }

def legolandJapan : Park :=
  { externalId := "2", source := "b", name := "Legoland", country := some "Japan" }

def legolandOverrides : Overrides :=
  .ofPairs [("Legoland", "Legoland")]

def legolandPair : ParkMatch :=
  ⟨legolandBillund, legolandJapan, 1, .manualOverride⟩

theorem matched_conflict_declared_legoland :
    (0 : Float) < 0.75 ∧
      legolandPair ∈
        ((parkRule 0.75 legolandOverrides).pairOff [legolandBillund] [legolandJapan]).matched ∧
      legolandPair.left.Conflicts legolandPair.right ∧
      legolandPair.method = .manualOverride ∧ legolandPair.confidence = 1 ∧
      legolandOverrides.contains legolandPair.left.name legolandPair.right.name := by
  have ht : (0 : Float) < 0.75 := by decide +kernel
  have hp : legolandPair ∈
      ((parkRule 0.75 legolandOverrides).pairOff [legolandBillund] [legolandJapan]).matched := by
    decide +kernel
  have hc : legolandPair.left.Conflicts legolandPair.right := by decide +kernel
  exact ⟨ht, hp, hc, matched_conflict_declared _ _ ht hp hc⟩

/-- A declaration overrides the veto, too. -/
theorem veto_not_absolute :
    ¬ ∀ (threshold : Float) (overrides : Overrides) (left right : List Park),
      0 < threshold → threshold ≤ 1 →
      ∀ pair ∈ ((parkRule threshold overrides).pairOff left right).matched,
        ¬ pair.left.Conflicts pair.right := by
  intro h
  refine h 0.75 legolandOverrides [legolandBillund] [legolandJapan] (by decide +kernel)
    (by decide +kernel) legolandPair ?_ ?_
  · decide +kernel
  · decide +kernel

end Matching

/-- What the veto leaves of conflicts inside a group. Two members can conflict behind an anchor of
unknown continent, through a declared pair, or where two parks share the anchor's external id. -/
structure ParkGroup.RespectsVeto (overrides : Matching.Overrides) (g : ParkGroup) : Prop where
  declared : ∀ pair ∈ g.pairs, pair.left.Conflicts pair.right →
    pair.method = .manualOverride ∧ overrides.contains pair.left.name pair.right.name
  members : ∀ p ∈ g.members, ∀ q ∈ g.members, p.Conflicts q →
    g.anchor.continent? = none ∨ (∃ pair ∈ g.pairs, pair.left.Conflicts pair.right) ∨
      ∃ pair ∈ g.pairs, pair.left ≠ g.anchor ∧ pair.left.externalId = g.anchor.externalId

namespace ParkDiscovery

open Matching

variable {threshold : Float} {overrides : Overrides} {g : ParkGroup}

theorem pair_of_anchor_conflict {p : Park} (hp : p ∈ g.members) (hc : g.anchor.Conflicts p) :
    ∃ pair ∈ g.pairs, pair.left = g.anchor → pair.left.Conflicts pair.right := by
  rcases List.mem_cons.mp hp with rfl | hp
  · exact absurd hc (Park.Conflicts.irrefl _)
  · obtain ⟨pair, hpair, rfl⟩ := List.mem_map.mp hp
    exact ⟨pair, hpair, fun hl ↦ hl ▸ hc⟩

theorem respectsVeto_of_accepts (ht : 0 < threshold)
    (hg : ∀ pair ∈ g.pairs, (parkRule threshold overrides).Accepts pair ∧
      pair.left.externalId = g.anchor.externalId) : g.RespectsVeto overrides := by
  refine ⟨fun pair hp hc ↦ ?_, fun p hp q hq hc ↦ ?_⟩
  · obtain ⟨hm, -, ho⟩ := declared_of_conflicts ht (hg pair hp).1 hc
    exact ⟨hm, ho⟩
  · cases ha : g.anchor.continent? with
    | none => exact Or.inl rfl
    | some c =>
      -- a known anchor takes a side, and so conflicts with one of the two itself
      have hpair : ∃ pair ∈ g.pairs, pair.left = g.anchor → pair.left.Conflicts pair.right := by
        rcases hc.of_known (r := g.anchor) (by simp [ha]) with hc | hc
        · exact pair_of_anchor_conflict hp hc
        · exact pair_of_anchor_conflict hq hc
      obtain ⟨pair, hm, himp⟩ := hpair
      by_cases hl : pair.left = g.anchor
      · exact Or.inr (Or.inl ⟨pair, hm, himp hl⟩)
      · exact Or.inr (Or.inr ⟨pair, hm, hl, (hg pair hm).2⟩)

theorem ofReplies_respectsVeto (ht : 0 < threshold)
    (replies : List (String × Except Failure (List Park)))
    (hg : g ∈ (ofReplies (parkRule threshold overrides) replies).groups) :
    g.RespectsVeto overrides := by
  cases replies with
  | nil => simp [ofReplies, groups] at hg
  | cons reply replies => exact respectsVeto_of_accepts ht fun pair hp ↦ reconcile_pair hg hp

end ParkDiscovery

namespace Hub

open Matching

variable {σ : Type} [Network (StateM σ)]

theorem discoverParks_respectsVeto (settings : Settings) (adapters : List (Adapter (StateM σ)))
    (sink : JobSink) (s : σ) (ht : Settings.isThreshold settings.matching.parkThreshold) :
    ∀ g ∈ (((ofAdapters settings adapters).discoverParks sink).run s).1.1.groups,
      g.RespectsVeto settings.matching.overrideTable := by
  intro g hg
  have hpos : 0 < settings.matching.parkThreshold :=
    of_decide_eq_true (Bool.and_eq_true_iff.mp ht).1
  rw [discoverParks_found, parkRule, ofAdapters_matching] at hg
  exact ParkDiscovery.ofReplies_respectsVeto hpos _ hg

/-- Three sources that call their park the same. The first does not tell where it is, the others
put it on different continents. -/
def legolands : List (Adapter (StateM World)) := [
  .fixed "themeparks-wiki" (.ok [
    { externalId := "w1", source := "themeparks-wiki", name := "Legoland" }]),
  .fixed "queue-times" (.ok [
    { externalId := "q1", source := "queue-times", name := "Legoland",
      continent := some "Europe" }]),
  .fixed "wartezeiten" (.ok [
    { externalId := "z1", source := "wartezeiten", name := "Legoland",
      continent := some "Asia" }])]

theorem discoverParks_respectsVeto_legolands :
    Settings.isThreshold ({} : Settings).matching.parkThreshold ∧
      ∀ g ∈ (((ofAdapters {} legolands).discoverParks .absent).run {}).1.1.groups,
        g.RespectsVeto ({} : Settings).matching.overrideTable := by
  have ht : Settings.isThreshold ({} : Settings).matching.parkThreshold := by decide +kernel
  exact ⟨ht, discoverParks_respectsVeto {} legolands .absent {} ht⟩

def SpansContinents (settings : Settings) (adapters : List (Adapter (StateM World))) : Prop :=
  ∃ g ∈ (((ofAdapters settings adapters).discoverParks .absent).run {}).1.1.groups,
    ∃ p ∈ g.members, ∃ q ∈ g.members, p.Conflicts q

def declaredSettings : Settings :=
  { matching := { overrides := [("Legoland", "Legoland")] } }

/-- The first source gives two parks one external id. -/
def repeatedLegolands : List (Adapter (StateM World)) := [
  .fixed "themeparks-wiki" (.ok [
    { externalId := "w1", source := "themeparks-wiki", name := "Efteling",
      continent := some "Europe" },
    { externalId := "w1", source := "themeparks-wiki", name := "Legoland",
      continent := some "Asia" }]),
  .fixed "queue-times" (.ok [
    { externalId := "q1", source := "queue-times", name := "Legoland",
      continent := some "Asia" }])]

/-- A group can span two continents: with nothing declared and all replies honest, behind a
declaration, and where an external id is repeated. -/
theorem group_spans_continents :
    (Settings.isThreshold ({} : Settings).matching.parkThreshold ∧
      ({} : Settings).matching.overrideTable.isEmpty ∧
      (∀ reply ∈ ((ofAdapters {} legolands).parkReplies.run {}).1, Honest reply) ∧
      SpansContinents {} legolands) ∧
    SpansContinents declaredSettings legolands.tail ∧
    SpansContinents {} repeatedLegolands := by
  unfold SpansContinents
  refine ⟨⟨by decide +kernel, by decide +kernel, ?_, ?_⟩, ?_, ?_⟩
  · rw [parkReplies, ranked_eq_adapters (by decide)]
    decide
  all_goals
    rw [discoverParks_found, parkReplies, ranked_eq_adapters (by decide)]
    decide +kernel

end Hub

end ParkFusion
