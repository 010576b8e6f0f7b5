import Mathlib.Data.List.Nodup
import ParkFusion.Discovery.Parks
import ParkFusion.Proofs.Pairing

namespace ParkFusion.ParkDiscovery

open Matching

/-- No source has parks in both lists. -/
def Apart (l l' : List Park) : Prop :=
  ∀ p ∈ l, ∀ q ∈ l', p.source ≠ q.source

/-- What holds between two lists holds between any parts of them. -/
def Hereditary (R : List Park → List Park → Prop) : Prop :=
  ∀ ⦃l l' m m' : List Park⦄, R l l' → m ⊆ l → m' ⊆ l' → R m m'

theorem Apart.mono : Hereditary Apart := fun _ _ _ _ h hm hm' p hp q hq ↦ h p (hm hp) q (hm' hq)

/-- What a pair takes up: its left park, and the source of the other one. -/
def slot (pair : ParkMatch) : Key × String := (pair.left.key, pair.right.source)

variable {rule : ParkRule} {left right : List Park} {rights lists : List (List Park)}
variable {count : Nat} {pair : ParkMatch}

theorem crossRow_cons (rule : ParkRule) (left right : List Park) (rights : List (List Park)) :
    crossRow rule left (right :: rights) =
      ((rule.pairOff left right).matched ++ (crossRow rule left rights).1,
        (rule.pairOff left right).rightOnly :: (crossRow rule left rights).2) := rfl

theorem crossRow_eq_primaryOutcomes (rule : ParkRule) (left : List Park) (rights : List (List Park)) :
    crossRow rule left rights =
      ((primaryOutcomes rule left rights).flatMap (·.matched),
        (primaryOutcomes rule left rights).map (·.rightOnly)) := by
  induction rights with
  | nil => rfl
  | cons right rights ih => rw [crossRow_cons, ih]; rfl

theorem crossRow_accepts (h : pair ∈ (crossRow rule left rights).1) : rule.Accepts pair := by
  induction rights with
  | nil => simp [crossRow] at h
  | cons right rights ih =>
    rw [crossRow_cons] at h
    rcases List.mem_append.mp h with h | h
    · exact Rule.accepts_of_mem_matched h
    · exact ih h

theorem crossRow_left_mem (h : pair ∈ (crossRow rule left rights).1) : pair.left ∈ left := by
  induction rights with
  | nil => simp [crossRow] at h
  | cons right rights ih =>
    rw [crossRow_cons] at h
    rcases List.mem_append.mp h with h | h
    · exact (rule.matched_left_sublist left right).subset (List.mem_map_of_mem h)
    · exact ih h

theorem crossRow_right_perm (rule : ParkRule) (left : List Park) (rights : List (List Park)) :
    ((crossRow rule left rights).1.map (·.right) ++ (crossRow rule left rights).2.flatten).Perm
      rights.flatten := by
  have hperm := rule.rights_perm left id rights
  rw [List.flatMap_id] at hperm
  rw [crossRow_eq_primaryOutcomes, primaryOutcomes, List.flatMap_map, List.map_map]
  dsimp only
  rw [← List.flatMap_def]
  exact hperm

theorem crossRow_right_mem (h : pair ∈ (crossRow rule left rights).1) :
    ∃ right ∈ rights, pair.right ∈ right := by
  have hm := (crossRow_right_perm rule left rights).subset
    (List.mem_append_left _ (List.mem_map_of_mem h))
  exact List.mem_flatten.mp hm

theorem crossRow_rest_subset {rest : List Park} (h : rest ∈ (crossRow rule left rights).2) :
    ∃ right ∈ rights, rest ⊆ right := by
  induction rights with
  | nil => simp [crossRow] at h
  | cons right rights ih =>
    rw [crossRow_cons] at h
    rcases List.mem_cons.mp h with rfl | h
    · exact ⟨right, List.mem_cons_self, rule.rightOnly_subset left right⟩
    · obtain ⟨r, hr, hs⟩ := ih h
      exact ⟨r, List.mem_cons_of_mem right hr, hs⟩

theorem crossRow_rest_pairwise {R : List Park → List Park → Prop} (hR : Hereditary R)
    (h : rights.Pairwise R) : (crossRow rule left rights).2.Pairwise R := by
  induction rights with
  | nil => exact .nil
  | cons right rights ih =>
    obtain ⟨hr, hrest⟩ := List.pairwise_cons.mp h
    rw [crossRow_cons]
    refine List.pairwise_cons.mpr ⟨fun rest hm ↦ ?_, ih hrest⟩
    obtain ⟨r, hrm, hs⟩ := crossRow_rest_subset hm
    exact hR (hr r hrm) (rule.rightOnly_subset left right) hs

theorem crossRow_rest_apart (h : rights.Pairwise Apart) :
    (crossRow rule left rights).2.Pairwise Apart :=
  crossRow_rest_pairwise Apart.mono h

theorem matched_slots_nodup {key : Key} (h : (left.map Park.key).count key ≤ 1)
    (right : List Park) :
    (((rule.pairOff left right).matched.map slot).filter (·.1 = key)).Nodup := by
  have hlefts := (rule.matched_left_sublist left right).map Park.key
  have honce : ((left.map Park.key).filter (· = key)).Nodup := by
    rw [List.filter_eq, List.nodup_replicate]
    exact h
  refine List.Nodup.of_map Prod.fst (honce.sublist ?_)
  rw [List.map_map] at hlefts
  refine List.Sublist.trans ?_ (hlefts.filter (· = key))
  rw [List.filter_map, List.filter_map, List.map_map]
  exact List.Sublist.refl _

/-- A park whose key no other one has is in one pair at most with each list. -/
theorem crossRow_slots_nodup {key : Key} (hl : (left.map Park.key).count key ≤ 1)
    (hr : rights.Pairwise Apart) :
    (((crossRow rule left rights).1.map slot).filter (·.1 = key)).Nodup := by
  induction rights with
  | nil => simp [crossRow]
  | cons right rights ih =>
    obtain ⟨hr, hrest⟩ := List.pairwise_cons.mp hr
    rw [crossRow_cons, List.map_append, List.filter_append]
    refine List.Nodup.append (matched_slots_nodup hl right) (ih hrest) ?_
    intro s hs hs'
    obtain ⟨m, hm, rfl⟩ := List.mem_map.mp (List.mem_of_mem_filter hs)
    obtain ⟨m', hm', he⟩ := List.mem_map.mp (List.mem_of_mem_filter hs')
    have hright := (rule.right_perm left right).subset
      (List.mem_append_left _ (List.mem_map_of_mem hm))
    obtain ⟨r, hrm, hr'⟩ := crossRow_right_mem hm'
    exact hr r hrm _ hright _ hr' (congrArg Prod.snd he).symm

theorem crossPairs_succ_cons (rule : ParkRule) (count : Nat) (left : List Park)
    (rights : List (List Park)) :
    crossPairs rule (count + 1) (left :: rights) =
      ((crossRow rule left rights).1 ++ (crossPairs rule count (crossRow rule left rights).2).1,
        left :: (crossPairs rule count (crossRow rule left rights).2).2) := rfl

theorem crossPairs_accepts (h : pair ∈ (crossPairs rule count lists).1) : rule.Accepts pair := by
  induction count generalizing lists with
  | zero => simp [crossPairs] at h
  | succ count ih =>
    cases lists with
    | nil => simp [crossPairs] at h
    | cons left rights =>
      rw [crossPairs_succ_cons] at h
      rcases List.mem_append.mp h with h | h
      · exact crossRow_accepts h
      · exact ih h

theorem crossPairs_right_perm (rule : ParkRule) (count : Nat) (lists : List (List Park)) :
    ((crossPairs rule count lists).1.map (·.right) ++ (crossPairs rule count lists).2.flatten).Perm
      lists.flatten := by
  induction count generalizing lists with
  | zero => simp [crossPairs]
  | succ count ih =>
    cases lists with
    | nil => simp [crossPairs]
    | cons left rights =>
      rw [crossPairs_succ_cons]
      simp only [List.map_append, List.flatten_cons]
      refine List.Perm.trans ?_ ((((ih _).append_left _).trans
        (crossRow_right_perm rule left rights)).append_left left)
      simp only [List.append_assoc]
      exact ((List.perm_append_comm_assoc _ _ _).append_left _).trans
        (List.perm_append_comm_assoc _ _ _)

theorem crossPairs_rest_subset {rest : List Park} (h : rest ∈ (crossPairs rule count lists).2) :
    ∃ l ∈ lists, rest ⊆ l := by
  induction count generalizing lists with
  | zero => exact ⟨rest, h, List.Subset.refl rest⟩
  | succ count ih =>
    cases lists with
    | nil => simp [crossPairs] at h
    | cons left rights =>
      rw [crossPairs_succ_cons] at h
      rcases List.mem_cons.mp h with rfl | h
      · exact ⟨rest, List.mem_cons_self, List.Subset.refl rest⟩
      · obtain ⟨r, hr, hs⟩ := ih h
        obtain ⟨right, hright, hs'⟩ := crossRow_rest_subset hr
        exact ⟨right, List.mem_cons_of_mem left hright, List.Subset.trans hs hs'⟩

theorem crossPairs_rest_pairwise {R : List Park → List Park → Prop} (hR : Hereditary R)
    (h : lists.Pairwise R) : (crossPairs rule count lists).2.Pairwise R := by
  induction count generalizing lists with
  | zero => exact h
  | succ count ih =>
    cases lists with
    | nil => exact .nil
    | cons left rights =>
      obtain ⟨hl, hrest⟩ := List.pairwise_cons.mp h
      rw [crossPairs_succ_cons]
      refine List.pairwise_cons.mpr ⟨fun rest hm ↦ ?_, ih (crossRow_rest_pairwise hR hrest)⟩
      obtain ⟨r, hr, hs⟩ := crossPairs_rest_subset hm
      obtain ⟨right, hright, hs'⟩ := crossRow_rest_subset hr
      exact hR (hl right hright) (List.Subset.refl left) (List.Subset.trans hs hs')

theorem crossPairs_left_mem (h : pair ∈ (crossPairs rule count lists).1) :
    pair.left ∈ (crossPairs rule count lists).2.flatten := by
  induction count generalizing lists with
  | zero => simp [crossPairs] at h
  | succ count ih =>
    cases lists with
    | nil => simp [crossPairs] at h
    | cons left rights =>
      rw [crossPairs_succ_cons] at h ⊢
      rw [List.flatten_cons]
      rcases List.mem_append.mp h with h | h
      · exact List.mem_append_left _ (crossRow_left_mem h)
      · exact List.mem_append_right _ (ih h)

theorem crossPairs_left_list (h : pair ∈ (crossPairs rule count lists).1) :
    ∃ left ∈ lists, pair.left ∈ left :=
  List.mem_flatten.mp ((crossPairs_right_perm rule count lists).subset
    (List.mem_append_right _ (crossPairs_left_mem h)))

theorem crossPairs_sources_ne (h : lists.Pairwise Apart)
    (hp : pair ∈ (crossPairs rule count lists).1) : pair.left.source ≠ pair.right.source := by
  induction count generalizing lists with
  | zero => simp [crossPairs] at hp
  | succ count ih =>
    cases lists with
    | nil => simp [crossPairs] at hp
    | cons left rights =>
      obtain ⟨hl, hr⟩ := List.pairwise_cons.mp h
      rw [crossPairs_succ_cons] at hp
      rcases List.mem_append.mp hp with hp | hp
      · obtain ⟨right, hm, hpr⟩ := crossRow_right_mem hp
        exact hl right hm _ (crossRow_left_mem hp) _ hpr
      · exact ih (crossRow_rest_apart hr) hp

theorem crossPairs_slots_nodup {key : Key} (h : lists.Pairwise Apart)
    (hk : (lists.flatten.map Park.key).count key ≤ 1) (count : Nat) :
    (((crossPairs rule count lists).1.map slot).filter (·.1 = key)).Nodup := by
  induction count generalizing lists with
  | zero => simp [crossPairs]
  | succ count ih =>
    cases lists with
    | nil => simp [crossPairs]
    | cons left rights =>
      obtain ⟨hl, hr⟩ := List.pairwise_cons.mp h
      rw [List.flatten_cons, List.map_append, List.count_append] at hk
      have hrest : ((crossRow rule left rights).2.flatten.map Park.key).count key ≤ 1 := by
        have hperm := ((crossRow_right_perm rule left rights).map Park.key).count_eq key
        rw [List.map_append, List.count_append] at hperm
        omega
      rw [crossPairs_succ_cons, List.map_append, List.filter_append]
      refine List.Nodup.append (crossRow_slots_nodup (by omega) hr)
        (ih (crossRow_rest_apart hr) hrest) ?_
      intro s hs hs'
      obtain ⟨m, hm, rfl⟩ := List.mem_map.mp (List.mem_of_mem_filter hs)
      obtain ⟨m', hm', he⟩ := List.mem_map.mp (List.mem_of_mem_filter hs')
      obtain ⟨rest, hrm, hml⟩ := crossPairs_left_list hm'
      obtain ⟨right, hright, hsub⟩ := crossRow_rest_subset hrm
      have hsource : m.left.source = m'.left.source := congrArg (·.1.source) he.symm
      exact hl right hright _ (crossRow_left_mem hm) _ (hsub hml) hsource

end ParkFusion.ParkDiscovery
