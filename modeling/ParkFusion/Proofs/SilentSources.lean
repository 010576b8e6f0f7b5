import ParkFusion.Proofs.OnePass
import ParkFusion.Proofs.Scripts
import ParkFusion.World

namespace ParkFusion

open Matching

theorem Matching.Rule.pairOff_nil {α σ : Type} [LT σ] [DecidableLT σ] (rule : Rule α σ)
    (left : List α) : rule.pairOff left [] = { leftOnly := left } := by
  induction left with
  | nil => rfl
  | cons a left ih =>
    have hnone : rule.choose? a [] = none := by simp [choose?, firstDeclared?, best?]
    rw [pairOff, hnone]
    dsimp only
    rw [ih]

namespace ParkDiscovery

/-- The first lists are the second ones and some empty ones in between. -/
inductive Padded : List (List Park) → List (List Park) → Prop
  | nil : Padded [] []
  | keep (l : List Park) {lists lists' : List (List Park)} :
      Padded lists lists' → Padded (l :: lists) (l :: lists')
  | drop {lists lists' : List (List Park)} : Padded lists lists' → Padded ([] :: lists) lists'

section Padded

variable {rule : ParkRule} {lists lists' : List (List Park)} {count count' : Nat}

theorem Padded.flatten (h : Padded lists lists') : lists.flatten = lists'.flatten := by
  induction h with
  | nil => rfl
  | keep l _ ih => rw [List.flatten_cons, List.flatten_cons, ih]
  | drop _ ih => exact ih

theorem Padded.crossRow (h : Padded lists lists') (rule : ParkRule) (left : List Park) :
    (crossRow rule left lists).1 = (crossRow rule left lists').1 ∧
      Padded (crossRow rule left lists).2 (crossRow rule left lists').2 := by
  induction h with
  | nil => exact ⟨rfl, .nil⟩
  | keep l _ ih =>
    rw [crossRow_cons, crossRow_cons]
    exact ⟨congrArg ((rule.pairOff left l).matched ++ ·) ih.1, .keep _ ih.2⟩
  | drop _ ih =>
    rw [crossRow_cons, rule.pairOff_nil]
    exact ⟨ih.1, .drop ih.2⟩

theorem crossRow_nil (rule : ParkRule) (lists : List (List Park)) :
    crossRow rule [] lists = ([], lists) := by
  induction lists with
  | nil => rfl
  | cons l lists ih =>
    rw [crossRow_cons, ih]
    rfl

theorem Padded.crossPairs (h : Padded lists lists') (rule : ParkRule) (hcount : lists.length ≤ count)
    (hcount' : lists'.length ≤ count') :
    (crossPairs rule count lists).1 = (crossPairs rule count' lists').1 ∧
      Padded (crossPairs rule count lists).2 (crossPairs rule count' lists').2 := by
  induction count generalizing lists lists' count' with
  | zero =>
    obtain rfl := List.length_eq_zero_iff.mp (Nat.le_zero.mp hcount)
    cases h
    cases count' <;> exact ⟨rfl, .nil⟩
  | succ count ih =>
    cases h with
    | nil => cases count' <;> exact ⟨rfl, .nil⟩
    | @keep l lists lists' h =>
      rw [List.length_cons] at hcount hcount'
      cases count' with
      | zero => omega
      | succ count' =>
        obtain ⟨hpairs, hrest⟩ := h.crossRow rule l
        have hlength := crossRow_length rule l lists
        have hlength' := crossRow_length rule l lists'
        obtain ⟨hothers, hrests⟩ := ih hrest (show _ ≤ count by omega) (show _ ≤ count' by omega)
        rw [crossPairs_succ_cons, crossPairs_succ_cons, hpairs, hothers]
        exact ⟨rfl, .keep l hrests⟩
    | @drop lists _ h =>
      rw [List.length_cons] at hcount
      obtain ⟨hpairs, hrest⟩ := ih h (show _ ≤ count by omega) hcount'
      rw [crossPairs_succ_cons, crossRow_nil]
      exact ⟨hpairs, .drop hrest⟩

/-- A list without parks has no part in the pass. -/
theorem Padded.onePass (h : Padded lists lists') (rule : ParkRule) :
    onePass rule lists = onePass rule lists' := by
  obtain ⟨hpairs, hrest⟩ := h.crossPairs rule (Nat.le_refl _) (Nat.le_refl _)
  unfold ParkDiscovery.onePass
  dsimp only
  rw [hpairs, hrest.flatten]

end Padded

section Replies

variable {replies : List (String × Except Failure (List Park))}

theorem padded_replies (replies : List (String × Except Failure (List Park))) :
    Padded (replies.map parksOf) ((replies.filter (·.2.toOption.isSome)).map parksOf) := by
  induction replies with
  | nil => exact .nil
  | cons reply replies ih =>
    obtain ⟨id, reply⟩ := reply
    cases reply with
    | error f => exact .drop ih
    | ok parks => exact .keep parks ih

theorem ofReplies_failed (rule : ParkRule) (replies : List (String × Except Failure (List Park))) :
    (ofReplies rule replies).failed =
      (replies.filter fun reply ↦ reply.2.toOption.isNone).map (·.1) := by
  cases replies <;> rfl

theorem ofReplies_onePass (rule : ParkRule) (hd : (replies.map (·.1)).Nodup)
    (hh : ∀ r ∈ replies, Honest r) :
    (ofReplies rule replies).groups.Perm (onePass rule (replies.map parksOf)).1 ∧
      (ofReplies rule replies).singleSource = (onePass rule (replies.map parksOf)).2 := by
  cases replies with
  | nil => exact ⟨.nil, rfl⟩
  | cons reply replies =>
    have hseparate := separate_of_honest hd hh
    rw [List.map_cons] at hseparate
    rw [ofReplies_cons]
    exact ⟨reconcile_groups_perm hseparate, reconcile_singleSource hseparate⟩

/-- Sources that failed might as well not have been asked. -/
theorem ofReplies_withoutFailed (rule : ParkRule) (hd : (replies.map (·.1)).Nodup)
    (hh : ∀ r ∈ replies, Honest r) :
    let answers := replies.filter (·.2.toOption.isSome)
    (ofReplies rule replies).groups.Perm (ofReplies rule answers).groups ∧
      (ofReplies rule replies).singleSource = (ofReplies rule answers).singleSource := by
  intro answers
  have hd' : (answers.map (·.1)).Nodup := hd.sublist (List.filter_sublist.map _)
  obtain ⟨hgroups, hsingles⟩ := ofReplies_onePass rule hd hh
  obtain ⟨hgroups', hsingles'⟩ := ofReplies_onePass rule hd' fun r hr ↦
    hh r (List.mem_of_mem_filter hr)
  have hpass := (padded_replies replies).onePass rule
  exact ⟨hgroups.trans (hpass ▸ hgroups'.symm), hsingles.trans (hpass ▸ hsingles'.symm)⟩

end Replies

end ParkDiscovery

namespace EntityDiscovery

theorem lists_filter (replies : List (String × Except Failure (List Entity))) :
    lists (replies.filter (·.2.toOption.isSome)) = lists replies := by
  rw [lists, List.filterMap_filter]
  refine List.filterMap_congr fun reply _ ↦ ?_
  obtain ⟨id, reply⟩ := reply
  cases reply <;> rfl

theorem ofReplies_withoutFailed (rule : EntityRule)
    (replies : List (String × Except Failure (List Entity))) :
    let found := ofReplies rule replies
    let alone := ofReplies rule (replies.filter (·.2.toOption.isSome))
    found.anchor = alone.anchor ∧ found.anchorEntities = alone.anchorEntities ∧
      found.outcomes = alone.outcomes := by
  unfold ofReplies
  rw [lists_filter]
  cases lists replies <;> exact ⟨rfl, rfl, rfl⟩

theorem ofReplies_failed (rule : EntityRule)
    (replies : List (String × Except Failure (List Entity))) :
    (ofReplies rule replies).failed =
      (replies.filter fun reply ↦ reply.2.toOption.isNone).map (·.1) := by
  unfold ofReplies
  cases lists replies <;> rfl

end EntityDiscovery

namespace Hub

variable {σ : Type} {script : Script} {hub hub' : Hub (StateM σ)} {ids : List (String × String)}

theorem parkReplies_survivors (hd : (hub.adapters.map (·.id)).Nodup)
    (hf : ∀ a ∈ hub.adapters, a.Plays script) (hpolicy : hub'.policy = hub.policy)
    (hp : hub'.adapters.Perm (hub.adapters.filter (script.hasParks ·.id))) (s s' : σ) :
    (hub'.parkReplies.run s').1 = (hub.parkReplies.run s).1.filter (·.2.toOption.isSome) := by
  have hf' : ∀ a ∈ hub'.adapters, a.Plays script :=
    fun a ha ↦ hf a (List.mem_of_mem_filter (hp.subset ha))
  rw [parkReplies_run hf', parkReplies_run hf, ranking_filter hd hp hpolicy, List.filter_map]
  rfl

theorem entityReplies_survivors (hd : (hub.adapters.map (·.id)).Nodup)
    (hf : ∀ a ∈ hub.adapters, a.Plays script) (hpolicy : hub'.policy = hub.policy)
    (hp : hub'.adapters.Perm (hub.adapters.filter (!script.failsEntities ids ·.id))) (s s' : σ) :
    ((hub'.entityReplies ids).run s').1 =
      ((hub.entityReplies ids).run s).1.filter (·.2.toOption.isSome) := by
  have hf' : ∀ a ∈ hub'.adapters, a.Plays script :=
    fun a ha ↦ hf a (List.mem_of_mem_filter (hp.subset ha))
  have hranking := ranking_filter (p := fun id ↦ !script.failsEntities ids id) hd hp hpolicy
  rw [entityReplies_run hf', entityReplies_run hf, hranking, List.filterMap_filter,
    List.filter_filterMap]
  refine List.filterMap_congr fun id _ ↦ ?_
  rw [Script.failsEntities]
  rcases script.entities? ids id with _ | _ | _ <;> rfl

theorem parkReplies_failed (hf : ∀ a ∈ hub.adapters, a.Plays script) (s : σ) :
    ((hub.parkReplies.run s).1.filter fun reply ↦ reply.2.toOption.isNone).map (·.1) =
      hub.ranking.filter (!script.hasParks ·) := by
  rw [parkReplies_run hf, List.filter_map, List.map_map]
  refine (List.map_id' _).trans (List.filter_congr fun id _ ↦ ?_)
  rw [Script.hasParks, Function.comp_apply, Option.not_isSome]

theorem entityReplies_failed (hf : ∀ a ∈ hub.adapters, a.Plays script) (s : σ) :
    (((hub.entityReplies ids).run s).1.filter fun reply ↦ reply.2.toOption.isNone).map (·.1) =
      hub.ranking.filter (script.failsEntities ids) := by
  rw [entityReplies_run hf, List.filter_filterMap, List.map_filterMap, ← List.filterMap_eq_filter]
  refine List.filterMap_congr fun id _ ↦ ?_
  rw [Option.guard, Script.failsEntities]
  rcases script.entities? ids id with _ | _ | _ <;> rfl

variable [Network (StateM σ)]

/-- What is found when some sources fail is what is found when these are not registered, and they
are told. -/
structure DropsFailing (script : Script) (settings : Settings)
    (adapters : List (Adapter (StateM σ))) : Prop where
  parks : ∀ (survivors : List (Adapter (StateM σ))) (sink sink' : JobSink) (s s' : σ),
    survivors.Perm (adapters.filter (script.hasParks ·.id)) →
      let hub := ofAdapters settings adapters
      let found := ((hub.discoverParks sink).run s).1.1
      let alone := (((ofAdapters settings survivors).discoverParks sink').run s').1.1
      found.groups.Perm alone.groups ∧ found.singleSource = alone.singleSource ∧
        found.failed = hub.ranking.filter (!script.hasParks ·)
  entities : ∀ (survivors : List (Adapter (StateM σ))) (ids : List (String × String)) (s s' : σ),
    survivors.Perm (adapters.filter (!script.failsEntities ids ·.id)) →
      let hub := ofAdapters settings adapters
      let found := ((hub.discoverEntities ids).run s).1
      let alone := (((ofAdapters settings survivors).discoverEntities ids).run s').1
      found.anchor = alone.anchor ∧ found.anchorEntities = alone.anchorEntities ∧
        found.outcomes = alone.outcomes ∧
        found.failed = hub.ranking.filter (script.failsEntities ids)

theorem discover_dropsFailing (settings : Settings) {adapters : List (Adapter (StateM σ))}
    (hd : (adapters.map (·.id)).Nodup) (hf : ∀ a ∈ adapters, a.Plays script)
    (hh : ∀ a ∈ adapters, Honest (a.id, script.parks a.id)) :
    DropsFailing script settings adapters := by
  have hadapters := ofAdapters_adapters settings hd
  have hd' : ((ofAdapters settings adapters).adapters.map (·.id)).Nodup :=
    ofAdapters_ids_nodup settings adapters
  have hf' : ∀ a ∈ (ofAdapters settings adapters).adapters, a.Plays script := by
    rwa [hadapters]
  have hpolicy : ∀ survivors : List (Adapter (StateM σ)),
      (ofAdapters settings survivors).policy = (ofAdapters settings adapters).policy :=
    fun survivors ↦ (ofAdapters_policy settings survivors).trans
      (ofAdapters_policy settings adapters).symm
  have hmatching : ∀ survivors : List (Adapter (StateM σ)),
      (ofAdapters settings survivors).matching = (ofAdapters settings adapters).matching :=
    fun survivors ↦ (ofAdapters_matching settings survivors).trans
      (ofAdapters_matching settings adapters).symm
  have hids : ∀ (p : Adapter (StateM σ) → Bool) (survivors : List (Adapter (StateM σ))),
      survivors.Perm (adapters.filter p) →
        (ofAdapters settings survivors).adapters = survivors := by
    intro p survivors hp
    refine ofAdapters_adapters settings ((hp.map (·.id)).nodup_iff.mpr ?_)
    exact hd.sublist (List.filter_sublist.map _)
  constructor
  case parks =>
    intro survivors sink sink' s s' hp hub found alone
    have hnodup : ((hub.parkReplies.run s).1.map (·.1)).Nodup := by
      rw [hub.parkReplies_ids s]
      exact ranking_nodup hd'
    have hhonest : ∀ reply ∈ (hub.parkReplies.run s).1, Honest reply := by
      rw [parkReplies_run hf']
      intro reply hr
      obtain ⟨id, hid, rfl⟩ := List.mem_map.mp hr
      obtain ⟨a, ha, rfl⟩ := List.mem_map.mp hid
      exact hh a (hadapters ▸ hub.ranked_perm.subset ha)
    have hrule : (ofAdapters settings survivors).parkRule = hub.parkRule := by
      rw [parkRule, parkRule, hmatching survivors]
    have hsurvivors := parkReplies_survivors hd' hf'
      (hpolicy survivors) (by rwa [hadapters, hids _ survivors hp]) s s'
    have halone : alone = _ := discoverParks_found (ofAdapters settings survivors) sink' s'
    obtain ⟨hgroups, hsingles⟩ := ParkDiscovery.ofReplies_withoutFailed hub.parkRule hnodup hhonest
    rw [hrule, hsurvivors] at halone
    rw [halone]
    refine ⟨hgroups, hsingles, ?_⟩
    exact (ParkDiscovery.ofReplies_failed hub.parkRule _).trans (parkReplies_failed hf' s)
  case entities =>
    intro survivors ids s s' hp hub found alone
    have hrule : (ofAdapters settings survivors).entityRule = hub.entityRule := by
      rw [entityRule, entityRule, hmatching survivors]
    have hsurvivors := entityReplies_survivors hd' hf'
      (hpolicy survivors) (by rwa [hadapters, hids _ survivors hp]) s s'
    have halone : alone = _ := discoverEntities_found (ofAdapters settings survivors) ids s'
    obtain ⟨hanchor, hentities, houtcomes⟩ :=
      EntityDiscovery.ofReplies_withoutFailed hub.entityRule ((hub.entityReplies ids).run s).1
    rw [hrule, hsurvivors] at halone
    rw [halone]
    refine ⟨hanchor, hentities, houtcomes, ?_⟩
    exact (EntityDiscovery.ofReplies_failed hub.entityRule _).trans (entityReplies_failed hf' s)

/-- The source that ranks first does not answer. The other two share a park and a ride in it. -/
def primaryOutage : Script where
  parks source :=
    if source = "themeparks-wiki" then .error (.rejected source 503 "maintenance")
    else .ok [{ externalId := "hansa", source := source, name := "Hansa-Park" }]
  entities source _ :=
    if source = "themeparks-wiki" then .error (.rejected source 503 "maintenance")
    else .ok [{ externalId := "1", source := source, name := "Nessie", entityType := .attraction }]
  live source _ := .error (.rejected source 404 "no live data")
  healthy source := .ok (source ≠ "themeparks-wiki")

def outageHub : List (Adapter (StateM World)) :=
  ["wartezeiten", "themeparks-wiki", "queue-times"].map (primaryOutage.adapter 1)

theorem discover_dropsFailing_primaryOutage :
    (outageHub.map (·.id)).Nodup ∧ (∀ a ∈ outageHub, a.Plays primaryOutage) ∧
      (∀ a ∈ outageHub, Honest (a.id, primaryOutage.parks a.id)) ∧
      (∃ a ∈ outageHub, ¬ primaryOutage.hasParks a.id) ∧
      DropsFailing primaryOutage {} outageHub := by
  have hids : (outageHub.map (·.id)).Nodup := by decide
  have hplays : ∀ a ∈ outageHub, a.Plays primaryOutage := by
    intro a ha
    obtain ⟨id, -, rfl⟩ := List.mem_map.mp ha
    exact primaryOutage.adapter_plays 1 id
  have hhonest : ∀ a ∈ outageHub, Honest (a.id, primaryOutage.parks a.id) := by decide
  have hfails : ∃ a ∈ outageHub, ¬ primaryOutage.hasParks a.id := by decide
  exact ⟨hids, hplays, hhonest, hfails, discover_dropsFailing {} hids hplays hhonest⟩

end Hub

end ParkFusion
