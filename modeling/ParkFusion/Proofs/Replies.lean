import Mathlib.Data.List.Nodup
import ParkFusion.Hub

namespace ParkFusion

/-- The parks in a reply. A failure has none. -/
def parksOf (reply : String × Except Failure (List Park)) : List Park :=
  reply.2.toOption.getD []

/-- A reply that lists parks of the source itself, no two of them under one external id. -/
def Honest (reply : String × Except Failure (List Park)) : Prop :=
  ((parksOf reply).map (·.externalId)).Nodup ∧ ∀ p ∈ parksOf reply, p.source = reply.1

instance (reply : String × Except Failure (List Park)) : Decidable (Honest reply) :=
  inferInstanceAs (Decidable (_ ∧ _))

/-- A source with a fixed reply to the question for its parks, and with no data on any of them. -/
def Adapter.fixed {m : Type → Type} [Monad m] (id : String) (parks : Except Failure (List Park)) :
    Adapter m where
  id := id
  completeness := 1
  parks := return parks
  entities _ := return .ok []
  live _ := return .error (.rejected id 404 "no live data")
  healthy := return .ok true

namespace Hub

section Registered

variable {m : Type → Type} {hub : Hub m}

theorem register_ids_nodup (a : Adapter m) (h : (hub.adapters.map (·.id)).Nodup) :
    ((hub.register a).adapters.map (·.id)).Nodup := by
  unfold register
  split
  · exact h
  · rename_i hr
    have hnew : a.id ∉ hub.adapters.map (·.id) := by
      intro hm
      obtain ⟨b, hb, he⟩ := List.mem_map.mp hm
      exact hr (List.any_eq_true.mpr ⟨b, hb, by simpa using he⟩)
    rw [List.map_append, List.map_singleton, ← List.concat_eq_append]
    exact h.concat hnew

/-- What registration keeps holds however many sources are registered. -/
theorem ofAdapters_induction {P : Hub m → Prop} {s : Settings} (hs : P (.ofSettings s))
    (hregister : ∀ hub a, P hub → P (hub.register a)) (adapters : List (Adapter m)) :
    P (ofAdapters s adapters) := by
  have hfold : ∀ hub : Hub m, P hub → P (adapters.foldl register hub) := by
    induction adapters with
    | nil => exact fun _ h ↦ h
    | cons a adapters ih => exact fun hub h ↦ ih _ (hregister hub a h)
  exact hfold _ hs

theorem ofAdapters_ids_nodup (s : Settings) (adapters : List (Adapter m)) :
    ((ofAdapters s adapters).adapters.map (·.id)).Nodup :=
  ofAdapters_induction (P := fun hub ↦ (hub.adapters.map (·.id)).Nodup) List.nodup_nil
    (fun _ a h ↦ register_ids_nodup a h) adapters

theorem ranking_nodup (h : (hub.adapters.map (·.id)).Nodup) : hub.ranking.Nodup := by
  have hperm := (List.mergeSort_perm hub.adapters hub.ranksBefore).map (·.id)
  exact hperm.nodup_iff.mpr h

theorem register_matching (a : Adapter m) : (hub.register a).matching = hub.matching := by
  unfold register
  split <;> rfl

theorem register_policy (a : Adapter m) : (hub.register a).policy = hub.policy := by
  unfold register
  split <;> rfl

theorem ofAdapters_matching (s : Settings) (adapters : List (Adapter m)) :
    (ofAdapters s adapters).matching = s.matching :=
  ofAdapters_induction (P := fun hub ↦ hub.matching = s.matching) rfl
    (fun _ a h ↦ (register_matching a).trans h) adapters

theorem ofAdapters_policy (s : Settings) (adapters : List (Adapter m)) :
    (ofAdapters s adapters).policy = s.merge :=
  ofAdapters_induction (P := fun hub ↦ hub.policy = s.merge) rfl
    (fun _ a h ↦ (register_policy a).trans h) adapters

theorem ranked_eq_adapters (h : hub.adapters.Pairwise fun a b ↦ hub.ranksBefore a b) :
    hub.ranked = hub.adapters :=
  List.mergeSort_of_pairwise h

end Registered

variable {σ : Type}

theorem run_mapM_map {α β γ : Type} {ask : α → StateM σ β} {f : β → γ} {g : α → γ} {l : List α}
    (h : ∀ a ∈ l, ∀ s, f ((ask a).run s).1 = g a) (s : σ) :
    ((l.mapM ask).run s).1.map f = l.map g := by
  induction l generalizing s with
  | nil => rfl
  | cons a l ih =>
    rw [List.mapM_cons, List.map_cons, ← h a List.mem_cons_self s]
    exact congrArg (f ((ask a).run s).1 :: ·)
      (ih (fun b hb ↦ h b (List.mem_cons_of_mem a hb)) ((ask a).run s).2)

/-- A record that every step extends by its own entry lists the steps one after the other. -/
theorem run_mapM_record {α β γ : Type} {ask : α → StateM σ β} {record : σ → List γ} {call : α → γ}
    {l : List α} (h : ∀ a ∈ l, ∀ s, record ((ask a).run s).2 = record s ++ [call a]) (s : σ) :
    record ((l.mapM ask).run s).2 = record s ++ l.map call := by
  induction l generalizing s with
  | nil => exact (List.append_nil (record s)).symm
  | cons a l ih =>
    have hrest := ih (fun b hb ↦ h b (List.mem_cons_of_mem a hb)) ((ask a).run s).2
    rw [h a List.mem_cons_self, List.append_assoc, List.singleton_append] at hrest
    rw [List.mapM_cons, List.map_cons, ← hrest]
    rfl

/-- What sources reply that are asked for their parks in turn, each in the state that the one before
it left. -/
def replyInTurn : List (Adapter (StateM σ)) → σ → List (String × Except Failure (List Park))
  | [], _ => []
  | a :: adapters, s => (a.id, (a.parks.run s).1) :: replyInTurn adapters (a.parks.run s).2

theorem parkReplies_inTurn (hub : Hub (StateM σ)) (s : σ) :
    (hub.parkReplies.run s).1 = replyInTurn hub.ranked s := by
  unfold parkReplies
  induction hub.ranked generalizing s with
  | nil => rfl
  | cons a adapters ih =>
    rw [List.mapM_cons, replyInTurn, ← ih (a.parks.run s).2]
    rfl

theorem parkReplies_ids (hub : Hub (StateM σ)) (s : σ) :
    (hub.parkReplies.run s).1.map (·.1) = hub.ranking :=
  run_mapM_map (fun _ _ _ ↦ rfl) s

variable [Network (StateM σ)]

theorem discoverParks_found (hub : Hub (StateM σ)) (sink : JobSink) (s : σ) :
    ((hub.discoverParks sink).run s).1.1 =
      .ofReplies hub.parkRule (hub.parkReplies.run s).1 := rfl

theorem discoverParks_sink (hub : Hub (StateM σ)) (sink : JobSink) (s : σ) :
    ∃ now, ((hub.discoverParks sink).run s).1.2 =
      (((hub.discoverParks sink).run s).1.1.jobs now).foldl
        (fun sink job ↦ JobSink.enqueue job sink) sink :=
  ⟨_, rfl⟩

end Hub

end ParkFusion
