import ParkFusion.Proofs.Ranking
import ParkFusion.Proofs.WellFormed

namespace ParkFusion

/-- What every source replies to every question that it can be asked. -/
structure Script where
  parks (source : String) : Except Failure (List Park)
  entities (source park : String) : Except Failure (List Entity)
  live (source park : String) : Except Failure LiveReport
  healthy (source : String) : Except Failure Bool

/-- A source that replies by the script, whatever happened before. -/
structure Adapter.Plays {σ : Type} (script : Script) (a : Adapter (StateM σ)) : Prop where
  parks : ∀ s, (a.parks.run s).1 = script.parks a.id
  entities : ∀ park s, ((a.entities park).run s).1 = script.entities a.id park
  live : ∀ park s, ((a.live park).run s).1 = script.live a.id park
  healthy : ∀ s, (a.healthy.run s).1 = script.healthy a.id

namespace Script

variable (script : Script) (ids : List (String × String))

/-- The source of an id that replies by the script. -/
def adapter {m : Type → Type} [Monad m] (completeness : UInt8) (id : String) : Adapter m where
  id := id
  completeness := completeness
  parks := return script.parks id
  entities park := return script.entities id park
  live park := return script.live id park
  healthy := return script.healthy id

theorem adapter_plays {σ : Type} (completeness : UInt8) (id : String) :
    Adapter.Plays (σ := σ) script (script.adapter completeness id) :=
  ⟨fun _ ↦ rfl, fun _ _ ↦ rfl, fun _ _ ↦ rfl, fun _ ↦ rfl⟩

def hasParks (source : String) : Bool :=
  (script.parks source).toOption.isSome

/-- The reply of a source that has an id for a park, when it is asked for the entities there. -/
def entities? (source : String) : Option (Except Failure (List Entity)) :=
  (ids.lookup source).map (script.entities source)

def failsEntities (source : String) : Bool :=
  (script.entities? ids source).any (·.toOption.isNone)

end Script

namespace Hub

variable {σ : Type} {script : Script} {hub : Hub (StateM σ)} {ids : List (String × String)}

theorem parkReplies_run (hf : ∀ a ∈ hub.adapters, a.Plays script) (s : σ) :
    (hub.parkReplies.run s).1 = hub.ranking.map fun id ↦ (id, script.parks id) := by
  rw [← List.map_id (hub.parkReplies.run s).1, ranking, List.map_map]
  refine run_mapM_map (fun a ha s ↦ ?_) s
  exact congrArg (a.id, ·) ((hf a (hub.ranked_perm.subset ha)).parks s)

theorem entityReplies_run (hf : ∀ a ∈ hub.adapters, a.Plays script) (s : σ) :
    ((hub.entityReplies ids).run s).1 =
      hub.ranking.filterMap fun id ↦ (script.entities? ids id).map (id, ·) := by
  have hcalls : ((hub.entityReplies ids).run s).1 =
      (knowing ids hub.ranked).map fun call ↦ (call.1.id, script.entities call.1.id call.2) := by
    rw [← List.map_id ((hub.entityReplies ids).run s).1]
    refine run_mapM_map (fun call hc s ↦ ?_) s
    obtain ⟨a, ha, hcall⟩ := List.mem_filterMap.mp hc
    obtain ⟨park, -, rfl⟩ := Option.map_eq_some_iff.mp hcall
    exact congrArg (a.id, ·) ((hf a (hub.ranked_perm.subset ha)).entities park s)
  rw [hcalls, knowing, List.map_filterMap, ranking, List.filterMap_map]
  refine List.filterMap_congr fun a _ ↦ ?_
  rw [Function.comp_apply, Script.entities?]
  cases ids.lookup a.id <;> rfl

end Hub

end ParkFusion
