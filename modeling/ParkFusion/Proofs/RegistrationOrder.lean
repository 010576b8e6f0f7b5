import ParkFusion.Proofs.Isolation
import ParkFusion.Proofs.Scripts
import ParkFusion.World

namespace ParkFusion

/-- The part of a script that is about live data, where no question is recorded. -/
def Script.liveScript {σ : Type} (script : Script) : LiveScript σ where
  reply := script.live
  asked _ := []

namespace Hub

section Registered

variable {m : Type → Type} {hub : Hub m} {a : Adapter m} {id : String}

theorem register_of_isRegistered (h : hub.isRegistered a.id) : hub.register a = hub :=
  if_pos h

theorem isRegistered_register (a : Adapter m) (id : String) :
    (hub.register a).isRegistered id ↔ hub.isRegistered id ∨ a.id = id := by
  unfold register
  split
  · rename_i hr
    constructor
    · exact Or.inl
    · rintro (h | rfl)
      · exact h
      · exact hr
  · simp [isRegistered]

theorem isRegistered_ofAdapters (s : Settings) (adapters : List (Adapter m)) (id : String) :
    (ofAdapters s adapters).isRegistered id ↔ id ∈ adapters.map (·.id) := by
  induction adapters using List.reverseRecOn with
  | nil => simp [ofAdapters, ofSettings, isRegistered]
  | append_singleton adapters a ih =>
    have hlast : ofAdapters s (adapters ++ [a]) = (ofAdapters s adapters).register a :=
      List.foldl_append ..
    rw [hlast, isRegistered_register, ih, List.map_append, List.mem_append, List.map_singleton,
      List.mem_singleton, eq_comm (a := a.id)]

/-- Registering a source again changes nothing, whenever it happens. -/
theorem ofAdapters_again (s : Settings) (before after : List (Adapter m))
    (h : a.id ∈ before.map (·.id)) :
    ofAdapters s (before ++ a :: after) = ofAdapters s (before ++ after) := by
  have hagain : (ofAdapters s before).register a = ofAdapters s before :=
    register_of_isRegistered ((isRegistered_ofAdapters s before a.id).mpr h)
  have hsplit : ∀ rest, ofAdapters s (before ++ rest) = rest.foldl register (ofAdapters s before) :=
    fun rest ↦ List.foldl_append ..
  rw [hsplit, hsplit, List.foldl_cons, hagain]

/-- The position in the priority decides, then the completeness, then the id. -/
def Outranks (hub : Hub m) (a b : Adapter m) : Prop :=
  hub.position a < hub.position b ∨ hub.position a = hub.position b ∧
    (b.completeness < a.completeness ∨ a.completeness = b.completeness ∧ a.id < b.id)

/-- Sources that the priority lists come before all others. -/
theorem outranks_of_unlisted {b : Adapter m} (ha : a.id ∈ hub.policy.priority)
    (hb : b.id ∉ hub.policy.priority) : hub.Outranks a b := by
  refine Or.inl ?_
  rw [position, position, List.idxOf_eq_length hb]
  exact List.idxOf_lt_length_of_mem ha

theorem outranks_of_rankKey_lt {b : Adapter m} (h : hub.rankKey a < hub.rankKey b) :
    hub.Outranks a b := by
  rw [rankKey, rankKey, Prod.Lex.toLex_lt_toLex, Prod.Lex.toLex_lt_toLex] at h
  rcases h with hposition | ⟨hposition, hlt | ⟨heq, hid⟩⟩
  · exact Or.inl hposition
  · refine Or.inr ⟨hposition, Or.inl ?_⟩
    rw [UInt8.lt_iff_toNat_lt]
    omega
  · refine Or.inr ⟨hposition, Or.inr ⟨UInt8.toNat_inj.mp ?_, hid⟩⟩
    omega

theorem ranked_outranks (hd : (hub.adapters.map (·.id)).Nodup) :
    hub.ranked.Pairwise hub.Outranks := by
  have hids : hub.ranked.Pairwise fun a b ↦ a.id ≠ b.id := List.pairwise_map.mp (ranking_nodup hd)
  refine (hub.ranked_pairwise.and hids).imp fun ⟨hle, hne⟩ ↦ ?_
  exact outranks_of_rankKey_lt (lt_of_le_of_ne hle fun heq ↦ hne (rankKey_id heq))

end Registered

variable {σ : Type} {script : Script} {hub hub' : Hub (StateM σ)} {ids : List (String × String)}

/-- The reports are merged by the rank of their sources. -/
theorem resolve_byRank (hd : (hub.adapters.map (·.id)).Nodup)
    (hf : ∀ a ∈ hub.adapters, a.Plays script) (park : String) (ids : List (String × String))
    (s : σ) : ((hub.resolve park ids).run s).1 =
      match (script.liveScript (σ := σ)).reports ids hub.ranked with
      | [] => .error ⟨park⟩
      | first :: rest => .ok (Merge.resolveOrdered hub.policy first.2 (first :: rest)) := by
  have hperm : (script.liveScript.reports ids hub.ranked).Perm
      (script.liveScript.reports ids hub.adapters) := hub.ranked_perm.filterMap _
  have hsorted : ((script.liveScript.reports ids hub.ranked).map (·.1)).Sublist hub.ranking := by
    rw [LiveScript.reports_ids]
    exact List.filter_sublist
  have horder : Merge.order (hub.ranking ++ hub.policy.priority)
      (script.liveScript.reports ids hub.adapters) = script.liveScript.reports ids hub.ranked := by
    rw [Merge.order_congr (LiveScript.reports_nodup hd) hperm.symm]
    exact Merge.order_eq_self (ranking_nodup hd) hsorted hub.policy.priority
  have hreply : ∀ a ∈ hub.adapters, ∀ park s,
      ((a.live park).run s).1 = (script.liveScript (σ := σ)).reply a.id park :=
    fun a ha ↦ (hf a ha).live
  rw [resolve_reports hreply, ← hperm.isEmpty_eq]
  cases hreports : script.liveScript.reports ids hub.ranked with
  | nil => rfl
  | cons first rest =>
    rw [hreports] at horder
    exact Merge.resolve_of_order horder

theorem health_run (hf : ∀ a ∈ hub.adapters, a.Plays script) (s : σ) :
    (hub.health.run s).1 =
      hub.adapters.map fun a ↦ (a.id, (script.healthy a.id).toOption.getD false) := by
  rw [← List.map_id (hub.health.run s).1]
  refine run_mapM_map (fun a ha s ↦ ?_) s
  have hreply := (hf a ha).healthy s
  exact congrArg (fun reply : Except Failure Bool ↦ (a.id, reply.toOption.getD false)) hreply

variable [Network (StateM σ)]

/-- What a hub does does not depend on the order in which its sources were registered. -/
structure IgnoresOrder (script : Script) (settings : Settings)
    (adapters adapters' : List (Adapter (StateM σ))) : Prop where
  ranked : (ofAdapters settings adapters').ranked = (ofAdapters settings adapters).ranked
  primary : (ofAdapters settings adapters').primary? = (ofAdapters settings adapters).primary?
  parks : ∀ sink, (ofAdapters settings adapters').discoverParks sink =
    (ofAdapters settings adapters).discoverParks sink
  entities : ∀ ids, (ofAdapters settings adapters').discoverEntities ids =
    (ofAdapters settings adapters).discoverEntities ids
  live : ∀ park ids s s', (((ofAdapters settings adapters').resolve park ids).run s').1 =
    (((ofAdapters settings adapters).resolve park ids).run s).1
  /-- Every source has one entry in the outcome of the health check, and they are the same ones. -/
  health : ∀ s s', (((ofAdapters settings adapters).health.run s).1.map (·.1)).Nodup ∧
    ((ofAdapters settings adapters').health.run s').1.Perm
      ((ofAdapters settings adapters).health.run s).1
  /-- A source whose id is registered already may be registered again, at any time. -/
  again : ∀ (before after : List (Adapter (StateM σ))) (a : Adapter (StateM σ)),
    a.id ∈ before.map (·.id) →
      ofAdapters settings (before ++ a :: after) = ofAdapters settings (before ++ after)
  byRank : (ofAdapters settings adapters).ranked.Perm adapters ∧
    (ofAdapters settings adapters).ranked.Pairwise (ofAdapters settings adapters).Outranks
  unlisted : ∀ a b : Adapter (StateM σ), a.id ∈ settings.merge.priority →
    b.id ∉ settings.merge.priority → (ofAdapters settings adapters).Outranks a b
  /-- Live reports are merged by the rank of their sources. -/
  merged : ∀ park ids s, (((ofAdapters settings adapters).resolve park ids).run s).1 =
    match (script.liveScript (σ := σ)).reports ids (ofAdapters settings adapters).ranked with
    | [] => .error ⟨park⟩
    | first :: rest => .ok (Merge.resolveOrdered settings.merge first.2 (first :: rest))

theorem ofAdapters_ignoresOrder (settings : Settings) {adapters adapters' : List (Adapter (StateM σ))}
    (hd : (adapters.map (·.id)).Nodup) (hp : adapters'.Perm adapters)
    (hf : ∀ a ∈ adapters, a.Plays script) : IgnoresOrder script settings adapters adapters' := by
  have hd' : (adapters'.map (·.id)).Nodup := (hp.map (·.id)).nodup_iff.mpr hd
  have hadapters := ofAdapters_adapters settings hd
  have hadapters' := ofAdapters_adapters settings hd'
  have hnodup : ((ofAdapters settings adapters).adapters.map (·.id)).Nodup :=
    ofAdapters_ids_nodup settings adapters
  have hnodup' : ((ofAdapters settings adapters').adapters.map (·.id)).Nodup :=
    ofAdapters_ids_nodup settings adapters'
  have hplays : ∀ a ∈ (ofAdapters settings adapters).adapters, a.Plays script := by
    rwa [hadapters]
  have hplays' : ∀ a ∈ (ofAdapters settings adapters').adapters, a.Plays script := by
    rw [hadapters']
    exact fun a ha ↦ hf a (hp.subset ha)
  have hpolicy : (ofAdapters settings adapters').policy = (ofAdapters settings adapters).policy :=
    (ofAdapters_policy settings adapters').trans (ofAdapters_policy settings adapters).symm
  have hmatching : (ofAdapters settings adapters').matching =
      (ofAdapters settings adapters).matching :=
    (ofAdapters_matching settings adapters').trans (ofAdapters_matching settings adapters).symm
  have hall : (ofAdapters settings adapters').adapters.Perm
      ((ofAdapters settings adapters).adapters.filter fun _ ↦ true) := by
    rw [List.filter_true, hadapters, hadapters']
    exact hp
  have hranked : (ofAdapters settings adapters').ranked = (ofAdapters settings adapters).ranked :=
    (ranked_filter hnodup hall hpolicy).trans (List.filter_true _)
  have hmerged := resolve_byRank hnodup hplays
  have hmerged' := resolve_byRank hnodup' hplays'
  constructor
  case ranked => exact hranked
  case primary => rw [primary?, ranking, hranked, primary?, ranking]
  case parks =>
    intro sink
    rw [discoverParks, parkReplies, parkRule, hranked, hmatching]
    rfl
  case entities =>
    intro ids
    rw [discoverEntities, entityRule, hranked, hmatching]
    rfl
  case live =>
    intro park ids s s'
    rw [hmerged, hmerged', hranked, hpolicy]
  case health =>
    intro s s'
    rw [health_run hplays, health_run hplays', hadapters, hadapters', List.map_map]
    exact ⟨hd, hp.map _⟩
  case again => exact fun before after a ↦ ofAdapters_again settings before after
  case byRank =>
    refine ⟨?_, ranked_outranks hnodup⟩
    have hperm := (ofAdapters settings adapters).ranked_perm
    rwa [hadapters] at hperm
  case unlisted =>
    intro a b ha hb
    rw [← ofAdapters_policy settings adapters] at ha hb
    exact outranks_of_unlisted ha hb
  case merged =>
    intro park ids s
    rw [hmerged, ofAdapters_policy]

/-- All sources answer with nothing but their name, and are healthy. -/
def nameplates : Script where
  parks source := .ok [{ externalId := "1", source := source, name := source }]
  entities source _ :=
    .ok [{ externalId := "1", source := source, name := source, entityType := .attraction }]
  live source park := .ok { source := source, parkExternalId := park, fetchedAt := .epoch }
  healthy _ := .ok true

/-- One source that the default priority lists, and three that it does not, two of them as rich as each
other. -/
def unlistedSources : List (Adapter (StateM World)) :=
  [nameplates.adapter 3 "beta", nameplates.adapter 9 "gamma", nameplates.adapter 3 "alpha",
    nameplates.adapter 1 "wartezeiten"]

theorem ofAdapters_ignoresOrder_unlistedSources :
    (unlistedSources.map (·.id)).Nodup ∧ unlistedSources.reverse.Perm unlistedSources ∧
      (∀ a ∈ unlistedSources, a.Plays nameplates) ∧
      IgnoresOrder nameplates {} unlistedSources unlistedSources.reverse := by
  have hids : (unlistedSources.map (·.id)).Nodup := by decide
  have hperm : unlistedSources.reverse.Perm unlistedSources := List.reverse_perm _
  have hplays : ∀ a ∈ unlistedSources, a.Plays nameplates := by
    simp [unlistedSources, Script.adapter_plays]
  exact ⟨hids, hperm, hplays, ofAdapters_ignoresOrder {} hids hperm hplays⟩

end Hub

end ParkFusion
