import ParkFusion.Proofs.MaximalPairing
import ParkFusion.Proofs.Partition

namespace ParkFusion

open Matching

namespace ParkDiscovery

/-- All sources of one list rank before all of the other. -/
def Before (rank : String → Nat) (l l' : List Park) : Prop :=
  ∀ p ∈ l, ∀ q ∈ l', rank p.source < rank q.source

theorem Before.mono (rank : String → Nat) : Hereditary (Before rank) :=
  fun _ _ _ _ h hm hm' p hp q hq ↦ h p (hm hp) q (hm' hq)

/-- Lists that stand by the rank of their sources. -/
structure Ranked (rank : String → Nat) (lists : List (List Park)) : Prop where
  before : lists.Pairwise (Before rank)
  level : ∀ l ∈ lists, ∀ p ∈ l, ∀ q ∈ l, rank p.source = rank q.source

section Ranks

variable {rank : String → Nat} {rule : ParkRule} {left : List Park} {rights lists : List (List Park)}
variable {count : Nat} {a b : Park}

theorem Ranked.crossRow (h : Ranked rank rights) : Ranked rank (crossRow rule left rights).2 := by
  refine ⟨crossRow_rest_pairwise (Before.mono rank) h.before, fun l hl p hp q hq ↦ ?_⟩
  obtain ⟨right, hr, hs⟩ := crossRow_rest_subset hl
  exact h.level right hr p (hs hp) q (hs hq)

theorem Ranked.crossPairs (h : Ranked rank lists) : Ranked rank (crossPairs rule count lists).2 := by
  refine ⟨crossPairs_rest_pairwise (Before.mono rank) h.before, fun l hl p hp q hq ↦ ?_⟩
  obtain ⟨right, hr, hs⟩ := crossPairs_rest_subset hl
  exact h.level right hr p (hs hp) q (hs hq)

/-- A park of lower rank stands in an earlier list. -/
theorem Ranked.related {R : List Park → List Park → Prop} (h : Ranked rank lists)
    (hR : lists.Pairwise R) (ha : a ∈ lists.flatten) (hb : b ∈ lists.flatten)
    (hlt : rank a.source < rank b.source) : ∃ l l', R l l' ∧ a ∈ l ∧ b ∈ l' := by
  induction lists with
  | nil => simp at ha
  | cons l lists ih =>
    obtain ⟨hbefore, hbefores⟩ := List.pairwise_cons.mp h.before
    obtain ⟨hl, hrest⟩ := List.pairwise_cons.mp hR
    rw [List.flatten_cons, List.mem_append] at ha hb
    rcases ha with ha | ha
    · rcases hb with hb | hb
      · have heq := h.level l List.mem_cons_self a ha b hb
        omega
      · obtain ⟨l', hl', hbl'⟩ := List.mem_flatten.mp hb
        exact ⟨l, l', hl l' hl', ha, hbl'⟩
    · rcases hb with hb | hb
      · obtain ⟨l', hl', hal'⟩ := List.mem_flatten.mp ha
        have hgt := hbefore l' hl' b hb a hal'
        omega
      · exact ih ⟨hbefores, fun m hm ↦ h.level m (List.mem_cons_of_mem l hm)⟩ hrest ha hb

end Ranks

section Reconciled

variable {rank : String → Nat} {rule : ParkRule} {primary : List Park}
variable {secondaries : List (List Park)} {g : ParkGroup} {a b : Park}

theorem anchor_unmatched (h : Separate (primary :: secondaries))
    (hg : g ∈ primaryGroups primary (primaryRow rule primary secondaries).1)
    (hempty : g.pairs = []) :
    g.anchor ∉ (primaryRow rule primary secondaries).1.map (·.left) := by
  intro hm
  obtain ⟨pair, hp, hl⟩ := List.mem_map.mp hm
  have hgrouped := primaryRow_grouped rule primary secondaries
  obtain ⟨g', hg', hpg'⟩ := hgrouped.exists_group hp
  have hids : ((primaryGroups primary (primaryRow rule primary secondaries).1).map
      (·.anchor.externalId)).Nodup := by
    have hanchors := h.ids primary List.mem_cons_self
    rw [← primaryGroups_anchors primary (primaryRow rule primary secondaries).1,
      List.map_map] at hanchors
    exact hanchors
  have hid : g'.anchor.externalId = g.anchor.externalId := by
    rw [← hgrouped.anchored g' hg' pair hpg', hl]
  have heq : g' = g := List.inj_on_of_nodup_map hids hg' hg hid
  rw [heq, hempty] at hpg'
  exact List.not_mem_nil hpg'

theorem right_mem_fullyMatched {pair : ParkMatch}
    (hp : pair ∈ (primaryRow rule primary secondaries).1) :
    ∃ g ∈ (reconcile rule primary secondaries).fullyMatched, pair.right ∈ g.members := by
  obtain ⟨g, hg, hpg⟩ := (primaryRow_grouped rule primary secondaries).exists_group hp
  rw [reconcile_eq]
  refine ⟨g, List.mem_filter.mpr ⟨hg, ?_⟩, List.mem_cons_of_mem _ (List.mem_map_of_mem hpg)⟩
  simpa using List.ne_nil_of_mem hpg

theorem mem_singleSource (h : a ∈ (reconcile rule primary secondaries).singleSource) :
    (∃ g ∈ primaryGroups primary (primaryRow rule primary secondaries).1,
      g.pairs = [] ∧ g.anchor = a) ∨ a ∈ unpaired rule primary secondaries := by
  rw [reconcile_eq] at h
  refine (List.mem_append.mp h).imp_left fun ha ↦ ?_
  obtain ⟨g, hg, rfl⟩ := List.mem_map.mp ha
  obtain ⟨hg, hempty⟩ := List.mem_filter.mp hg
  exact ⟨g, hg, List.isEmpty_iff.mp hempty, rfl⟩

theorem unpaired_subset (h : a ∈ unpaired rule primary secondaries) :
    a ∈ (primaryRow rule primary secondaries).2.flatten :=
  crossPairs_rest_mem (List.mem_filter.mp h).1

theorem singleSource_subset (h : a ∈ (reconcile rule primary secondaries).singleSource) :
    a ∈ primary ∨ a ∈ secondaries.flatten := by
  rcases mem_singleSource h with ⟨g, hg, -, rfl⟩ | ha
  · exact Or.inl (mem_primaryGroups hg).1
  · exact Or.inr (crossRow_rest_mem (unpaired_subset ha))

theorem mem_unpaired (h : a ∈ unpaired rule primary secondaries) :
    a ∈ (secondaryPass rule primary secondaries).2.flatten ∧
      a ∉ (secondaryPass rule primary secondaries).1.map (·.left) := by
  obtain ⟨ha, hkey⟩ := List.mem_filter.mp h
  refine ⟨ha, fun hm ↦ ?_⟩
  obtain ⟨pair, hp, rfl⟩ := List.mem_map.mp hm
  have hin : pair.left.key ∈ (secondaryPass rule primary secondaries).1.map (·.left.key) :=
    List.mem_map_of_mem hp
  simp [hin] at hkey

variable (hn : ∀ p ∈ (primary :: secondaries).flatten, ∀ q ∈ (primary :: secondaries).flatten,
  (rule.score p q).isNaN = false)
include hn

/-- A park of the primary that is in no pair cannot be paired with any that the primary left. -/
theorem primary_exhausts (h : Separate (primary :: secondaries))
    (hg : g ∈ primaryGroups primary (primaryRow rule primary secondaries).1)
    (hempty : g.pairs = []) (hb : b ∈ (primaryRow rule primary secondaries).2.flatten) :
    ¬ rule.Pairable g.anchor b := by
  refine crossRow_exhausts (fun p hp q hq ↦ ?_) (mem_primaryGroups hg).1
    (anchor_unmatched h hg hempty) hb
  exact hn p (List.mem_append_left _ hp) q (List.mem_append_right _ hq)

theorem unpaired_exhausts (hr : Ranked rank (primary :: secondaries))
    (ha : a ∈ unpaired rule primary secondaries) (hb : b ∈ unpaired rule primary secondaries)
    (hlt : rank a.source < rank b.source) : ¬ rule.Pairable a b := by
  have hsecondaries : Ranked rank secondaries :=
    ⟨(List.pairwise_cons.mp hr.before).2, fun l hl ↦ hr.level l (List.mem_cons_of_mem primary hl)⟩
  have hrest : Ranked rank (secondaryPass rule primary secondaries).2 :=
    hsecondaries.crossRow.crossPairs
  have hcount : (primaryRow rule primary secondaries).2.length ≤ secondaries.length :=
    Nat.le_of_eq (crossRow_length rule primary secondaries)
  have hexhausts := crossPairs_exhausts hcount fun p hp q hq ↦
    hn p (List.mem_append_right _ (crossRow_rest_mem hp))
      q (List.mem_append_right _ (crossRow_rest_mem hq))
  obtain ⟨ha, hfree⟩ := mem_unpaired ha
  obtain ⟨l, l', hll, hal, hbl⟩ := hrest.related hexhausts ha (mem_unpaired hb).1 hlt
  exact hll a hal hfree b hbl

theorem reconcile_exhausts (h : Separate (primary :: secondaries))
    (hr : Ranked rank (primary :: secondaries))
    (ha : a ∈ (reconcile rule primary secondaries).singleSource)
    (hb : b ∈ (reconcile rule primary secondaries).singleSource)
    (hlt : rank a.source < rank b.source) : ¬ rule.Pairable a b := by
  rcases mem_singleSource hb with ⟨g', hg', -, rfl⟩ | hb
  · -- the lower-ranked park is no park of the primary
    exfalso
    have hb := (mem_primaryGroups hg').1
    rcases mem_singleSource ha with ⟨g, hg, -, rfl⟩ | ha
    · have hlevel := hr.level primary List.mem_cons_self _ (mem_primaryGroups hg).1 _ hb
      omega
    · obtain ⟨l, hl, hal⟩ := List.mem_flatten.mp (crossRow_rest_mem (unpaired_subset ha))
      have hbefore := (List.pairwise_cons.mp hr.before).1 l hl _ hb a hal
      omega
  · rcases mem_singleSource ha with ⟨g, hg, hempty, rfl⟩ | ha
    · exact primary_exhausts hn h hg hempty (unpaired_subset hb)
    · exact unpaired_exhausts hn hr ha hb hlt

theorem reconcile_exhausts_primary (h : Separate (primary :: secondaries))
    (ha : a ∈ (reconcile rule primary secondaries).singleSource) (hprimary : a ∈ primary)
    (hb : b ∈ secondaries.flatten)
    (hout : ∀ g ∈ (reconcile rule primary secondaries).fullyMatched, b ∉ g.members) :
    ¬ rule.Pairable a b := by
  have hfree : b ∈ (primaryRow rule primary secondaries).2.flatten := by
    have hsplit := (crossRow_right_perm rule primary secondaries).symm.subset hb
    refine (List.mem_append.mp hsplit).resolve_left fun hm ↦ ?_
    obtain ⟨pair, hp, rfl⟩ := List.mem_map.mp hm
    obtain ⟨g, hg, hmem⟩ := right_mem_fullyMatched hp
    exact hout g hg hmem
  rcases mem_singleSource ha with ⟨g, hg, hempty, rfl⟩ | ha
  · exact primary_exhausts hn h hg hempty hfree
  · obtain ⟨l, hl, hal⟩ := List.mem_flatten.mp (crossRow_rest_mem (unpaired_subset ha))
    exact absurd rfl ((List.pairwise_cons.mp h.apart).1 l hl a hprimary a hal)

end Reconciled

section Replied

variable {replies : List (String × Except Failure (List Park))}

theorem idxOf_pairwise {ids : List String} (h : ids.Nodup) :
    ids.Pairwise fun x y ↦ ids.idxOf x < ids.idxOf y := by
  refine List.pairwise_iff_getElem.mpr fun i j hi hj hij ↦ ?_
  rwa [h.idxOf_getElem, h.idxOf_getElem]

theorem ranked_of_honest (hd : (replies.map (·.1)).Nodup) (hh : ∀ r ∈ replies, Honest r) :
    Ranked (replies.map (·.1)).idxOf (replies.map parksOf) := by
  refine ⟨?_, fun l hl p hp q hq ↦ ?_⟩
  · have hids := List.pairwise_map.mp (idxOf_pairwise hd)
    rw [List.pairwise_map]
    refine hids.imp_of_mem fun {r r'} hr hr' hlt p hp q hq ↦ ?_
    rwa [(hh r hr).2 p hp, (hh r' hr').2 q hq]
  · obtain ⟨r, hr, rfl⟩ := List.mem_map.mp hl
    rw [(hh r hr).2 p hp, (hh r hr).2 q hq]

end Replied

end ParkDiscovery

/-- The parks are declared identical, or they score above the threshold. -/
def MatchingSettings.WouldPair (settings : MatchingSettings) (a b : Park) : Prop :=
  settings.overrideTable.contains a.name b.name ∨ settings.parkThreshold < a.score b

theorem Matching.pairable_of_wouldPair {settings : MatchingSettings} {a b : Park}
    (h : settings.WouldPair a b) :
    (parkRule settings.parkThreshold settings.overrideTable).Pairable a b :=
  ⟨rfl, h.imp_left (declared_eq_contains _ _ _).trans⟩

namespace ParkDiscovery

/-- No match is missed: neither between parks that stayed alone, the first of the source that ranks
higher, nor between one of the primary's and any that no group of the primary has. -/
structure IsExhaustive (settings : MatchingSettings) (ranking : List String) (fetched : List Park)
    (d : ParkDiscovery) : Prop where
  singles : ∀ a ∈ d.singleSource, ∀ b ∈ d.singleSource,
    ranking.idxOf a.source < ranking.idxOf b.source → ¬ settings.WouldPair a b
  primary : ∀ a ∈ d.singleSource, d.primary = some a.source →
    ∀ b ∈ fetched, b.source ≠ a.source → (∀ g ∈ d.fullyMatched, b ∉ g.members) →
      ¬ settings.WouldPair a b

theorem ofReplies_isExhaustive {replies : List (String × Except Failure (List Park))}
    (settings : MatchingSettings) (hd : (replies.map (·.1)).Nodup) (hh : ∀ r ∈ replies, Honest r)
    (hn : ∀ a ∈ replies.flatMap parksOf, ∀ b ∈ replies.flatMap parksOf,
      (a.score b).isNaN = false) :
    (ofReplies (parkRule settings.parkThreshold settings.overrideTable) replies).IsExhaustive
      settings (replies.map (·.1)) (replies.flatMap parksOf) := by
  cases replies with
  | nil => constructor <;> simp [ofReplies]
  | cons reply replies =>
    have hseparate := separate_of_honest hd hh
    have hranked := ranked_of_honest hd hh
    rw [List.map_cons] at hseparate hranked
    rw [List.flatMap_def, List.map_cons] at hn
    have hsource : ∀ p ∈ parksOf reply, p.source = reply.1 := (hh reply List.mem_cons_self).2
    have hscores : ∀ p ∈ (parksOf reply :: replies.map parksOf).flatten,
        ∀ q ∈ (parksOf reply :: replies.map parksOf).flatten,
          ((parkRule settings.parkThreshold settings.overrideTable).score p q).isNaN = false := hn
    constructor
    · intro a ha b hb hlt hpair
      exact reconcile_exhausts hscores hseparate hranked ha hb hlt (pairable_of_wouldPair hpair)
    · intro a ha hprimary b hb hne hout hpair
      rw [List.flatMap_def, List.map_cons, List.flatten_cons] at hb
      have hid : reply.1 = a.source := Option.some.inj hprimary
      have hbsecond : b ∈ (replies.map parksOf).flatten :=
        (List.mem_append.mp hb).resolve_left fun hb ↦ hne ((hsource b hb).trans hid)
      have hafirst : a ∈ parksOf reply := by
        refine (singleSource_subset ha).resolve_right fun hm ↦ ?_
        obtain ⟨l, hl, hal⟩ := List.mem_flatten.mp hm
        obtain ⟨r, hr, rfl⟩ := List.mem_map.mp hl
        have hnew : reply.1 ∉ replies.map (·.1) := (List.nodup_cons.mp hd).1
        rw [hid, (hh r (List.mem_cons_of_mem reply hr)).2 a hal] at hnew
        exact hnew (List.mem_map_of_mem hr)
      exact reconcile_exhausts_primary hscores hseparate ha hafirst hbsecond hout
        (pairable_of_wouldPair hpair)

end ParkDiscovery

namespace Hub

open ParkDiscovery

variable {σ : Type} [Network (StateM σ)]

/-- Whatever sources are registered and whatever they reply, discovery leaves no two parks alone that
the settings would pair. -/
theorem discoverParks_isExhaustive (settings : Settings) (adapters : List (Adapter (StateM σ)))
    (sink : JobSink) (s : σ)
    (hh : ∀ reply ∈ ((ofAdapters settings adapters).parkReplies.run s).1, Honest reply)
    (hn : ∀ a ∈ ((ofAdapters settings adapters).parkReplies.run s).1.flatMap parksOf,
      ∀ b ∈ ((ofAdapters settings adapters).parkReplies.run s).1.flatMap parksOf,
        (a.score b).isNaN = false) :
    let hub := ofAdapters settings adapters
    (((hub.discoverParks sink).run s).1.1).IsExhaustive settings.matching hub.ranking
      ((hub.parkReplies.run s).1.flatMap parksOf) := by
  intro hub
  have hids : (hub.parkReplies.run s).1.map (·.1) = hub.ranking := hub.parkReplies_ids s
  have hd : ((hub.parkReplies.run s).1.map (·.1)).Nodup := by
    rw [hids]
    exact ranking_nodup (ofAdapters_ids_nodup settings adapters)
  have hrule : hub.parkRule =
      Matching.parkRule settings.matching.parkThreshold settings.matching.overrideTable := by
    rw [parkRule, ofAdapters_matching]
  rw [discoverParks_found, hrule, ← hids]
  exact ofReplies_isExhaustive settings.matching hd hh hn

/-- Three sources, of which the last two share a park, and the first two have one each that no other
source knows. -/
def scatteredParks : List (Adapter (StateM World)) := [
  .fixed "themeparks-wiki" (.ok [
    { externalId := "w1", source := "themeparks-wiki", name := "Efteling" }]),
  .fixed "queue-times" (.ok [
    { externalId := "12", source := "queue-times", name := "Hansa-Park" },
    { externalId := "13", source := "queue-times", name := "Toverland" }]),
  .fixed "wartezeiten" (.ok [
    { externalId := "hansa", source := "wartezeiten", name := "Hansa Park" }])]

theorem discoverParks_isExhaustive_scatteredParks :
    let hub := ofAdapters {} scatteredParks
    let fetched := (hub.parkReplies.run {}).1.flatMap parksOf
    let found := ((hub.discoverParks .absent).run {}).1.1
    (∀ reply ∈ (hub.parkReplies.run {}).1, Honest reply) ∧
      (∀ a ∈ fetched, ∀ b ∈ fetched, (a.score b).isNaN = false) ∧
      found.singleSource.map (·.name) = ["Efteling", "Toverland"] ∧
      found.IsExhaustive {} hub.ranking fetched := by
  intro hub fetched found
  have hh : ∀ reply ∈ (hub.parkReplies.run {}).1, Honest reply := by
    rw [parkReplies, ranked_eq_adapters (by decide)]
    decide
  have hn : ∀ a ∈ fetched, ∀ b ∈ fetched, (a.score b).isNaN = false := by
    dsimp only [fetched]
    rw [parkReplies, ranked_eq_adapters (by decide)]
    decide +kernel
  have hsingle : found.singleSource.map (·.name) = ["Efteling", "Toverland"] := by
    dsimp only [found]
    rw [discoverParks_found, parkReplies, ranked_eq_adapters (by decide)]
    decide +kernel
  exact ⟨hh, hn, hsingle, discoverParks_isExhaustive {} scatteredParks .absent {} hh hn⟩

end Hub

end ParkFusion
