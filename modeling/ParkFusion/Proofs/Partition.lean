import ParkFusion.Proofs.Entries
import ParkFusion.Proofs.Reconciliation
import ParkFusion.Proofs.Replies
import ParkFusion.World

namespace ParkFusion

open Matching

theorem ParkGroup.externalIds_perm {g : ParkGroup} (h : (g.members.map (·.source)).Nodup) :
    g.externalIds.Perm (g.members.map fun p ↦ (p.source, p.externalId)) := by
  have hkeys : ((g.members.map fun p ↦ (p.source, p.externalId)).map (·.1)).Nodup := by
    rw [List.map_map]
    exact h
  rw [ParkGroup.externalIds, Entries.keepLast_eq_self hkeys]
  exact Entries.sort_perm _

namespace ParkDiscovery

/-- What a discovery promises about the parks that were fetched for it. -/
structure IsPartition (fetched : List Park) (d : ParkDiscovery) : Prop where
  perm : d.occurrences.Perm fetched
  once : (d.occurrences.map Park.key).Nodup
  sources : ∀ g ∈ d.groups, (g.members.map (·.source)).Nodup
  externalIds : ∀ g ∈ d.groups,
    g.externalIds.Perm (g.members.map fun p ↦ (p.source, p.externalId))
  fully : ∀ g ∈ d.groups, g ∈ d.fullyMatched ↔ d.primary = some g.anchor.source
  cross : ∀ g ∈ d.crossMatched, ∀ p ∈ g.members, d.primary ≠ some p.source

variable {rule : ParkRule} {primary : List Park} {secondaries : List (List Park)} {g : ParkGroup}

theorem slots_nodup_of_sublist {pairs : List ParkMatch} (hsub : g.pairs.Sublist pairs)
    (hkey : ∀ pair ∈ g.pairs, pair.left.key = g.anchor.key)
    (h : ((pairs.map slot).filter (·.1 = g.anchor.key)).Nodup) : (g.pairs.map slot).Nodup := by
  have hown : (g.pairs.map slot).filter (·.1 = g.anchor.key) = g.pairs.map slot := by
    refine List.filter_eq_self.mpr fun s hs ↦ ?_
    obtain ⟨pair, hp, rfl⟩ := List.mem_map.mp hs
    exact decide_eq_true (hkey pair hp)
  rw [← hown]
  exact h.sublist ((hsub.map slot).filter _)

theorem primaryGroups_sources_nodup (h : (primary :: secondaries).Pairwise Apart)
    (hg : g ∈ primaryGroups primary (primaryRow rule primary secondaries).1)
    (hkey : ∀ pair ∈ g.pairs, pair.left.key = g.anchor.key)
    (honce : (primary.map Park.key).count g.anchor.key ≤ 1) : (g.members.map (·.source)).Nodup := by
  have hgrouped := primaryRow_grouped rule primary secondaries
  obtain ⟨hl, hr⟩ := List.pairwise_cons.mp h
  refine g.sources_nodup hkey (slots_nodup_of_sublist (hgrouped.sublist g hg) hkey
    (crossRow_slots_nodup honce hr)) fun pair hp ↦ ?_
  have hrow := (mem_primaryGroups hg).2 pair hp
  obtain ⟨right, hm, hpr⟩ := crossRow_right_mem hrow
  exact hl right hm _ (crossRow_left_mem hrow) _ hpr

theorem crossGroups_sources_nodup (h : secondaries.Pairwise Apart)
    (hg : g ∈ crossGroups (secondaryPass rule primary secondaries).1)
    (honce : (secondaries.flatten.map Park.key).count g.anchor.key ≤ 1) :
    (g.members.map (·.source)).Nodup := by
  have hgrouped := crossGroups_grouped (secondaryPass rule primary secondaries).1
  have hsub := hgrouped.sublist g hg
  have hleft : ((primaryRow rule primary secondaries).2.flatten.map Park.key).count
      g.anchor.key ≤ 1 := by
    have hperm := ((crossRow_right_perm rule primary secondaries).map Park.key).count_eq
      g.anchor.key
    rw [List.map_append, List.count_append] at hperm
    rw [primaryRow]
    omega
  have hapart : (primaryRow rule primary secondaries).2.Pairwise Apart := crossRow_rest_apart h
  exact g.sources_nodup (hgrouped.anchored g hg) (slots_nodup_of_sublist hsub
    (hgrouped.anchored g hg) (crossPairs_slots_nodup hapart hleft _)) fun pair hp ↦
      crossPairs_sources_ne hapart (hsub.subset hp)

variable {replies : List (String × Except Failure (List Park))}

theorem apart_of_sources (hd : (replies.map (·.1)).Nodup)
    (hs : ∀ r ∈ replies, ∀ p ∈ parksOf r, p.source = r.1) :
    (replies.map parksOf).Pairwise Apart := by
  rw [List.pairwise_map]
  refine (List.pairwise_map.mp hd).imp_of_mem fun hr hr' hne p hp q hq he ↦ hne ?_
  rw [← hs _ hr p hp, ← hs _ hr' q hq, he]

theorem separate_of_honest (hd : (replies.map (·.1)).Nodup) (hh : ∀ r ∈ replies, Honest r) :
    Separate (replies.map parksOf) := by
  refine ⟨apart_of_sources hd fun r hr ↦ (hh r hr).2, fun l hl ↦ ?_⟩
  obtain ⟨r, hr, rfl⟩ := List.mem_map.mp hl
  exact (hh r hr).1

theorem ofReplies_cons (rule : ParkRule) (reply : String × Except Failure (List Park))
    (replies : List (String × Except Failure (List Park))) :
    ofReplies rule (reply :: replies) =
      { reconcile rule (parksOf reply) (replies.map parksOf) with
        primary := some reply.1
        failed := ((reply :: replies).filter fun r ↦ r.2.toOption.isNone).map (·.1) } := rfl

theorem ofReplies_isPartition (rule : ParkRule) (hd : (replies.map (·.1)).Nodup)
    (hh : ∀ r ∈ replies, Honest r) :
    (ofReplies rule replies).IsPartition (replies.flatMap parksOf) := by
  cases replies with
  | nil => constructor <;> simp [ofReplies, occurrences, groups]
  | cons reply replies =>
    have h := separate_of_honest hd hh
    rw [List.map_cons] at h
    have hperm : (ofReplies rule (reply :: replies)).occurrences.Perm
        ((reply :: replies).flatMap parksOf) := by
      rw [List.flatMap_cons, List.flatMap_def]
      exact reconcile_occurrences_perm h.keys_nodup
    have hcross : ∀ g ∈ (ofReplies rule (reply :: replies)).crossMatched, ∀ p ∈ g.members,
        some reply.1 ≠ some p.source := by
      intro g hg p hp he
      rw [ofReplies_cons, reconcile_eq] at hg
      obtain ⟨l, hl, hpl⟩ := crossGroups_members_mem hg hp
      obtain ⟨r, hr, rfl⟩ := List.mem_map.mp hl
      have hne : reply.1 ∉ replies.map (·.1) := (List.nodup_cons.mp hd).1
      rw [Option.some.inj he, (hh r (List.mem_cons_of_mem reply hr)).2 p hpl] at hne
      exact hne (List.mem_map_of_mem hr)
    have hsources : ∀ g ∈ (ofReplies rule (reply :: replies)).groups,
        (g.members.map (·.source)).Nodup := by
      intro g hg
      rw [ofReplies_cons, reconcile_eq] at hg
      have hkeys := h.keys_nodup
      rw [List.flatten_cons, List.map_append, List.nodup_append'] at hkeys
      rcases List.mem_append.mp hg with hg | hg
      · have hg := (List.mem_filter.mp hg).1
        exact primaryGroups_sources_nodup h.apart hg
          (fun pair hp ↦ congrArg Park.key (primaryGroups_anchored h hg pair hp))
          (List.nodup_iff_count_le_one.mp hkeys.1 _)
      · exact crossGroups_sources_nodup (List.pairwise_cons.mp h.apart).2 hg
          (List.nodup_iff_count_le_one.mp hkeys.2.1 _)
    refine ⟨hperm, ?_, hsources, fun g hg ↦ g.externalIds_perm (hsources g hg), ?_, hcross⟩
    · refine ((hperm.map Park.key).nodup_iff).mpr ?_
      rw [List.flatMap_def]
      exact h.keys_nodup
    · intro g hg
      refine ⟨fun hf ↦ ?_, fun he ↦ ?_⟩
      · rw [ofReplies_cons, reconcile_eq] at hf
        have ha := (mem_primaryGroups (List.mem_filter.mp hf).1).1
        exact congrArg some ((hh reply List.mem_cons_self).2 g.anchor ha).symm
      · rcases List.mem_append.mp hg with hg | hg
        · exact hg
        · exact absurd he (hcross g hg g.anchor List.mem_cons_self)

end ParkDiscovery

theorem JobSink.foldl_enqueue (jobs : List Job) (queue : JobQueue) :
    jobs.foldl (fun sink job ↦ JobSink.enqueue job sink) (.queue queue) =
      .queue ⟨queue.jobs ++ jobs⟩ := by
  induction jobs generalizing queue with
  | nil => simp
  | cons job jobs ih =>
    rw [List.foldl_cons]
    refine (ih (queue.enqueue job)).trans ?_
    simp [JobQueue.enqueue]

namespace Hub

open ParkDiscovery

variable {σ : Type} [Network (StateM σ)]

/-- Whatever sources are registered and whatever they reply, discovery sorts the fetched parks
into groups and single ones without losing or doubling any, and asks for one job a group. -/
theorem discoverParks_isPartition (settings : Settings) (adapters : List (Adapter (StateM σ)))
    (queue : JobQueue) (s : σ)
    (hh : ∀ reply ∈ replyInTurn (ofAdapters settings adapters).ranked s, Honest reply) :
    let hub := ofAdapters settings adapters
    let found := ((hub.discoverParks (.queue queue)).run s).1
    found.1.primary = hub.primary? ∧
      found.1.IsPartition ((replyInTurn hub.ranked s).flatMap parksOf) ∧
      ∃ jobs, found.2 = .queue ⟨queue.jobs ++ jobs⟩ ∧ jobs.map (·.kind) =
        found.1.groups.map fun g ↦ .resyncMappings g.anchor.name g.externalIds := by
  intro hub found
  obtain ⟨now, hsink⟩ := hub.discoverParks_sink (.queue queue) s
  have hids := hub.parkReplies_ids s
  have hd : ((hub.parkReplies.run s).1.map (·.1)).Nodup := by
    rw [hids]
    exact ranking_nodup (ofAdapters_ids_nodup settings adapters)
  rw [← parkReplies_inTurn] at hh ⊢
  refine ⟨?_, ofReplies_isPartition hub.parkRule hd hh, found.1.jobs now,
    hsink.trans (JobSink.foldl_enqueue _ queue), ?_⟩
  · rw [show found.1 = _ from hub.discoverParks_found _ s, primary?, ← hids]
    cases (hub.parkReplies.run s).1 <;> rfl
  · simp [jobs, Function.comp_def]

/-- Three sources, of which the last two share a park that the first does not know. -/
def threeSources : List (Adapter (StateM World)) := [
  .fixed "themeparks-wiki" (.ok [
    { externalId := "w1", source := "themeparks-wiki", name := "Phantasialand" },
    { externalId := "w2", source := "themeparks-wiki", name := "Efteling" }]),
  .fixed "queue-times" (.ok [
    { externalId := "56", source := "queue-times", name := "Phantasialand" },
    { externalId := "12", source := "queue-times", name := "Hansa-Park" }]),
  .fixed "wartezeiten" (.ok [
    { externalId := "hansa", source := "wartezeiten", name := "Hansa Park" }])]

theorem discoverParks_isPartition_threeSources :
    let hub := ofAdapters {} threeSources
    let found := ((hub.discoverParks (.queue {})).run {}).1
    (∀ reply ∈ replyInTurn hub.ranked {}, Honest reply) ∧
      (found.1.fullyMatched.map (·.members.map (·.externalId)) = [["w1", "56"]] ∧
        found.1.crossMatched.map (·.members.map (·.externalId)) = [["12", "hansa"]] ∧
        found.1.singleSource.map (·.externalId) = ["w2"]) ∧
      found.1.primary = hub.primary? ∧
      found.1.IsPartition ((replyInTurn hub.ranked {}).flatMap parksOf) ∧
      ∃ jobs, found.2 = .queue ⟨[] ++ jobs⟩ ∧ jobs.map (·.kind) =
        found.1.groups.map fun g ↦ .resyncMappings g.anchor.name g.externalIds := by
  intro hub found
  have hh : ∀ reply ∈ replyInTurn hub.ranked {}, Honest reply := by
    dsimp only [hub]
    rw [ranked_eq_adapters (by decide)]
    decide
  have hfound : found.1 = .ofReplies hub.parkRule (replyInTurn hub.adapters {}) := by
    dsimp only [found, hub]
    rw [discoverParks_found, parkReplies_inTurn, ranked_eq_adapters (by decide)]
  refine ⟨hh, ?_, discoverParks_isPartition {} threeSources {} {} hh⟩
  rw [hfound]
  decide +kernel

end Hub

end ParkFusion
