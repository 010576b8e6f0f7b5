import ParkFusion.Discovery.Persistence
import ParkFusion.Proofs.Entries
import ParkFusion.Proofs.Reconciliation
import ParkFusion.Proofs.StoreRows

namespace ParkFusion

open Mapping Matching
open Mapping.Store (Sound Proposes)

theorem IdSupply.orNew_eq {supply : IdSupply} {known : Option Uuid} {id : Uuid}
    (h : known = some id) : (supply.orNew known).1 = id := by
  rw [h]
  rfl

section Assign

variable {α β : Type} {f : IdSupply → α → β × IdSupply} {supply : IdSupply}

theorem assign_append (f : IdSupply → α → β × IdSupply) (supply : IdSupply) (l l' : List α) :
    assign f supply (l ++ l') =
      ((assign f supply l).1 ++ (assign f (assign f supply l).2 l').1,
        (assign f (assign f supply l).2 l').2) := by
  induction l generalizing supply with
  | nil => rfl
  | cons a l ih => simp [assign, ih]

theorem exists_of_mem_assign {l : List α} {b : β} (h : b ∈ (assign f supply l).1) :
    ∃ a ∈ l, ∃ supply', b = (f supply' a).1 := by
  induction l generalizing supply with
  | nil => simp [assign] at h
  | cons a l ih =>
    rcases List.mem_cons.mp h with rfl | h
    · exact ⟨a, List.mem_cons_self, supply, rfl⟩
    · obtain ⟨a', ha', he⟩ := ih h
      exact ⟨a', List.mem_cons_of_mem a ha', he⟩

theorem exists_mem_assign {l : List α} {a : α} (h : a ∈ l) :
    ∃ supply', (f supply' a).1 ∈ (assign f supply l).1 := by
  obtain ⟨before, after, rfl⟩ := List.append_of_mem h
  rw [assign_append]
  exact ⟨_, List.mem_append_right _ List.mem_cons_self⟩

end Assign

theorem Subject.ofPark_key (p : Park) : (Subject.ofPark p).key = p.key := rfl

theorem Subject.ofEntity_key (park : Uuid) (e : Entity) : (Subject.ofEntity park e).key = e.key :=
  rfl

section Family

variable {α : Type} {key : α → Key} {subject : α → Subject} {id : Uuid}
variable {pair : Match α Float} {pairs : List (Match α Float)} {m : Mapping} {ms : List Mapping}

def declaredKeys (key : α → Key) (pairs : List (Match α Float)) : List Key :=
  (pairs.filter (·.method = .manualOverride)).flatMap fun pair ↦ [key pair.left, key pair.right]

theorem mem_declaredKeys {k : Key} : k ∈ declaredKeys key pairs ↔
    ∃ pair ∈ pairs, pair.method = .manualOverride ∧ (k = key pair.left ∨ k = key pair.right) := by
  simp [declaredKeys, and_assoc]

theorem mem_ofMatch (hs : ∀ a, (subject a).key = key a) (h : m ∈ ofMatch id subject pair) :
    m.id = id ∧ (m.key = key pair.left ∨ m.key = key pair.right) ∧
      (m.verified ↔ pair.method = .manualOverride) := by
  have hm : m ∈ [pair.left, pair.right].map fun record ↦ (⟨id, subject record, pair.confidence,
      .ofMatch pair.method, pair.method = .manualOverride⟩ : Mapping) := h
  simp only [List.map_cons, List.map_nil, List.mem_cons, List.not_mem_nil, or_false] at hm
  rcases hm with rfl | rfl
  · exact ⟨rfl, Or.inl (hs pair.left), decide_eq_true_iff⟩
  · exact ⟨rfl, Or.inr (hs pair.right), decide_eq_true_iff⟩

theorem exists_ofMatch (id : Uuid) (pair : Match α Float) (hs : ∀ a, (subject a).key = key a) {k : Key}
    (h : k = key pair.left ∨ k = key pair.right) :
    ∃ m ∈ ofMatch id subject pair, m.key = k := by
  rcases h with rfl | rfl
  · exact ⟨_, List.mem_cons_self, hs pair.left⟩
  · exact ⟨_, List.mem_cons_of_mem _ List.mem_cons_self, hs pair.right⟩

/-- A record and those that it is paired with get one id, if nothing else has their keys. -/
theorem proposes_of_pairs {a : α} (hs : ∀ a, (subject a).key = key a)
    (hanchor : ∃ m ∈ ms, m.key = key a)
    (hin : ∀ pair ∈ pairs, ∀ m ∈ ofMatch id subject pair, m ∈ ms)
    (hout : ∀ m ∈ ms, m.key ∈ key a :: pairs.map (key ·.right) →
      (∃ pair ∈ pairs, m ∈ ofMatch id subject pair) ∨ m.id = id ∧ m.verified = false) :
    Proposes ms (key a :: pairs.map (key ·.right)) (declaredKeys key pairs) id := by
  refine ⟨fun k hk ↦ ?_, fun m hm hk ↦ ?_, fun k hk ↦ ?_⟩
  · rcases List.mem_cons.mp hk with rfl | hk
    · exact hanchor
    · obtain ⟨pair, hp, rfl⟩ := List.mem_map.mp hk
      obtain ⟨m, hm, hmk⟩ := exists_ofMatch id pair hs (Or.inr rfl)
      exact ⟨m, hin pair hp m hm, hmk⟩
  · rcases hout m hm hk with ⟨pair, -, hmp⟩ | ⟨hid, -⟩
    · exact (mem_ofMatch hs hmp).1
    · exact hid
  · rw [mem_declaredKeys]
    constructor
    · rintro ⟨pair, hp, hmethod, hkey⟩
      obtain ⟨m, hm, hmk⟩ := exists_ofMatch id pair hs hkey
      exact ⟨m, hin pair hp m hm, hmk, (mem_ofMatch hs hm).2.2.mpr hmethod⟩
    · rintro ⟨m, hm, rfl, hv⟩
      rcases hout m hm hk with ⟨pair, hp, hmp⟩ | ⟨-, hunverified⟩
      · obtain ⟨-, hkey, hverified⟩ := mem_ofMatch hs hmp
        exact ⟨pair, hp, hverified.mp hv, hkey⟩
      · rw [hunverified] at hv
        cases hv

end Family

namespace ParkDiscovery

variable {store : Store} {supply : IdSupply} {bundles : List Bundle} {d : ParkDiscovery}
variable {g : ParkGroup}

def proposeBundle (store : Store) (supply : IdSupply) (bundle : Bundle) :
    List Mapping × IdSupply :=
  let picked := supply.orNew (bundle.keys.findSome? store.idOf?)
  (bundle.mappings picked.1, picked.2)

def proposals (d : ParkDiscovery) (store : Store) (supply : IdSupply) : List Mapping :=
  (assign (proposeBundle store) supply d.bundles).1.flatten

theorem proposeAll_eq_assign (h : Sound store) (supply : IdSupply) (bundles : List Bundle) :
    proposeAll store supply bundles =
      (.ok (assign (proposeBundle store) supply bundles).1.flatten,
        (assign (proposeBundle store) supply bundles).2) := by
  induction bundles generalizing supply with
  | nil => rfl
  | cons bundle bundles ih =>
    rw [proposeAll, h.existingId]
    dsimp only
    rw [ih]
    rfl

theorem persist_eq (h : Sound store) (d : ParkDiscovery) (supply : IdSupply) :
    d.persist store supply =
      (.ok (d.proposals store supply).length, (d.proposals store supply).foldl Store.insert store,
        (assign (proposeBundle store) supply d.bundles).2) := by
  rw [persist, proposeAll_eq_assign h]
  dsimp only
  rw [h.record]
  rfl

/-- Every group has pairs, all of them of its anchor, and no park stands at two places. -/
structure WellFormed (d : ParkDiscovery) : Prop where
  pairs_ne_nil : ∀ g ∈ d.groups, g.pairs ≠ []
  anchored : ∀ g ∈ d.groups, g.Anchored
  keys_nodup : (d.occurrences.map Park.key).Nodup

/-- Every group has pairs, no park stands at two places, and the left park of a pair is of the
pair's own group or of none. -/
structure Tidy (d : ParkDiscovery) : Prop where
  pairs_ne_nil : ∀ g ∈ d.groups, g.pairs ≠ []
  keys_nodup : (d.occurrences.map Park.key).Nodup
  left_own : ∀ g ∈ d.groups, ∀ pair ∈ g.pairs, pair.left.key ∈ g.members.map Park.key ∨
    ∀ g' ∈ d.groups, pair.left.key ∉ g'.members.map Park.key

theorem WellFormed.tidy (h : d.WellFormed) : d.Tidy where
  pairs_ne_nil := h.pairs_ne_nil
  keys_nodup := h.keys_nodup
  left_own g hg pair hp := by
    rw [h.anchored g hg pair hp]
    exact Or.inl List.mem_cons_self

theorem bundles_keys (d : ParkDiscovery) :
    d.bundles.flatMap (·.keys) = d.occurrences.map Park.key := by
  simp [bundles, occurrences, ofGroup, ofSingle, List.flatMap_map, List.map_flatMap,
    ← List.map_eq_flatMap]

theorem Tidy.mapping_key_mem (h : d.Tidy) {bundle : Bundle} (hb : bundle ∈ d.bundles)
    {id : Uuid} {m : Mapping} (hm : m ∈ bundle.mappings id) :
    m.key ∈ bundle.keys ∨ ∀ g' ∈ d.groups, m.key ∉ g'.members.map Park.key := by
  rcases List.mem_append.mp hb with hb | hb
  · obtain ⟨g, hg, rfl⟩ := List.mem_map.mp hb
    obtain ⟨pair, hp, hm⟩ := List.mem_flatMap.mp hm
    rcases (mem_ofMatch Subject.ofPark_key hm).2.1 with hk | hk
    · rw [hk]
      exact h.left_own g hg pair hp
    · rw [hk]
      exact Or.inl (List.mem_cons_of_mem _ (List.mem_map_of_mem (List.mem_map_of_mem hp)))
  · obtain ⟨p, -, rfl⟩ := List.mem_map.mp hb
    rw [List.mem_singleton.mp hm]
    exact Or.inl (List.mem_singleton_self _)

variable {before after : List Bundle}

/-- No other bundle has a mapping for a member of a group. -/
theorem Tidy.key_not_mem (h : d.Tidy) (hg : g ∈ d.groups)
    (hsplit : d.bundles = before ++ ofGroup g :: after) {bundle : Bundle}
    (hb : bundle ∈ before ++ after) {id : Uuid} {m : Mapping} (hm : m ∈ bundle.mappings id) :
    m.key ∉ g.members.map Park.key := by
  have hnodup := h.keys_nodup
  rw [← bundles_keys, hsplit, List.flatMap_append, List.flatMap_cons] at hnodup
  obtain ⟨-, htail, hbefore⟩ := List.nodup_append'.mp hnodup
  obtain ⟨-, -, hafter⟩ := List.nodup_append'.mp htail
  have hmem : bundle ∈ d.bundles := by
    rw [hsplit]
    rcases List.mem_append.mp hb with hb | hb
    · exact List.mem_append_left _ hb
    · exact List.mem_append_right _ (List.mem_cons_of_mem _ hb)
  rcases h.mapping_key_mem hmem hm with hkey | hkey
  · intro hk
    rcases List.mem_append.mp hb with hb | hb
    · exact hbefore (List.mem_flatMap.mpr ⟨bundle, hb, hkey⟩) (List.mem_append_left _ hk)
    · exact hafter hk (List.mem_flatMap.mpr ⟨bundle, hb, hkey⟩)
  · exact hkey g hg

theorem proposals_split (hsplit : d.bundles = before ++ ofGroup g :: after) (store : Store)
    (supply : IdSupply) :
    let found := (assign (proposeBundle store) supply before).2
    d.proposals store supply = (assign (proposeBundle store) supply before).1.flatten ++
      ((proposeBundle store found (ofGroup g)).1 ++
        (assign (proposeBundle store) (proposeBundle store found (ofGroup g)).2 after).1.flatten) := by
  rw [proposals, hsplit, assign_append, List.flatten_append]
  rfl

theorem Tidy.mem_proposals (h : d.Tidy) (hg : g ∈ d.groups)
    (hsplit : d.bundles = before ++ ofGroup g :: after) (store : Store) (supply : IdSupply)
    {m : Mapping} (hm : m ∈ d.proposals store supply) (hk : m.key ∈ g.members.map Park.key) :
    m ∈ (proposeBundle store (assign (proposeBundle store) supply before).2 (ofGroup g)).1 := by
  have hrest : ∀ supply bundles, bundles ⊆ before ++ after →
      m ∉ (assign (proposeBundle store) supply bundles).1.flatten := by
    intro supply bundles hb hm
    obtain ⟨list, hlist, hm⟩ := List.mem_flatten.mp hm
    obtain ⟨bundle, hbundle, supply', rfl⟩ := exists_of_mem_assign hlist
    exact h.key_not_mem hg hsplit (hb hbundle) hm hk
  rw [proposals_split hsplit] at hm
  rcases List.mem_append.mp hm with hm | hm
  · exact absurd hm (hrest _ before (List.subset_append_left _ _))
  · rcases List.mem_append.mp hm with hm | hm
    · exact hm
    · exact absurd hm (hrest _ after (List.subset_append_right _ _))

/-- The parks of a group are proposed under the id that the first known one of them has. -/
theorem WellFormed.proposes (h : d.WellFormed) (hg : g ∈ d.groups) (store : Store)
    (supply : IdSupply) :
    ∃ id, (∀ known, (g.members.map Park.key).findSome? store.idOf? = some known → known = id) ∧
      Proposes (d.proposals store supply) (g.members.map Park.key) (declaredKeys Park.key g.pairs)
        id := by
  obtain ⟨before, after, hsplit⟩ := List.append_of_mem
    (List.mem_append_left (d.singleSource.map ofSingle) (List.mem_map_of_mem (f := ofGroup) hg))
  let supply' := (assign (proposeBundle store) supply before).2
  have hin : (proposeBundle store supply' (ofGroup g)).1 ⊆ d.proposals store supply := by
    rw [proposals_split hsplit]
    exact fun m hm ↦ List.mem_append_right _ (List.mem_append_left _ hm)
  have hout := fun m hm ↦ h.tidy.mem_proposals hg hsplit store supply (m := m) hm
  have hkeys : g.members.map Park.key = g.anchor.key :: g.pairs.map (Park.key ·.right) := by
    simp [ParkGroup.members, Function.comp_def]
  let id := (supply'.orNew ((g.members.map Park.key).findSome? store.idOf?)).1
  refine ⟨id, fun known hknown ↦ (IdSupply.orNew_eq hknown).symm, ?_⟩
  have hpairs : ∀ m, m ∈ (proposeBundle store supply' (ofGroup g)).1 ↔
      ∃ pair ∈ g.pairs, m ∈ ofMatch id Subject.ofPark pair := fun m ↦ List.mem_flatMap
  rw [hkeys] at hout ⊢
  refine proposes_of_pairs Subject.ofPark_key ?_ (fun pair hp m hm ↦ hin ((hpairs m).mpr ⟨pair, hp, hm⟩))
    fun m hm hk ↦ Or.inl ((hpairs m).mp (hout m hm hk))
  obtain ⟨pair, hp⟩ := List.exists_mem_of_ne_nil _ (h.pairs_ne_nil g hg)
  obtain ⟨m, hm, hmk⟩ := exists_ofMatch id pair Subject.ofPark_key (Or.inl rfl)
  refine ⟨m, hin ((hpairs m).mpr ⟨pair, hp, hm⟩), ?_⟩
  rw [hmk, h.anchored g hg pair hp]

end ParkDiscovery

end ParkFusion
