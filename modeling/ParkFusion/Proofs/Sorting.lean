import Mathlib.Data.List.Nodup
import Mathlib.Data.List.Sort

namespace ParkFusion

variable {α β : Type} [LinearOrder β] {le : α → α → Bool} {key : α → β} {l l' : List α}

theorem trans_of_key (h : ∀ a b, le a b ↔ key a ≤ key b) (a b c : α) (hab : le a b)
    (hbc : le b c) : le a c :=
  (h a c).mpr (((h a b).mp hab).trans ((h b c).mp hbc))

theorem total_of_key (h : ∀ a b, le a b ↔ key a ≤ key b) (a b : α) : le a b || le b a := by
  rw [Bool.or_eq_true, h, h]
  exact le_total (key a) (key b)

theorem mergeSort_ascends (h : ∀ a b, le a b ↔ key a ≤ key b) (l : List α) :
    (l.mergeSort le).Pairwise (key · ≤ key ·) :=
  (List.pairwise_mergeSort (trans_of_key h) (total_of_key h) l).imp fun hab ↦ (h _ _).mp hab

theorem mergeSort_ascends_strictly (h : ∀ a b, le a b ↔ key a ≤ key b) (hd : (l.map key).Nodup) :
    (l.mergeSort le).Pairwise (key · < key ·) := by
  have hne : (l.mergeSort le).Pairwise (key · ≠ key ·) :=
    List.pairwise_map.mp (((List.mergeSort_perm l le).map key).nodup_iff.mpr hd)
  exact (mergeSort_ascends h l).imp₂ (fun _ _ hle hne ↦ lt_of_le_of_ne hle hne) hne

/-- A list that ascends strictly is told by its members. -/
theorem eq_of_ascending (h : l.Pairwise (key · < key ·)) (h' : l'.Pairwise (key · < key ·))
    (hmem : ∀ a, a ∈ l ↔ a ∈ l') : l = l' := by
  have : Std.Irrefl fun a b ↦ key a < key b := ⟨fun a ↦ lt_irrefl (key a)⟩
  have : Std.Antisymm fun a b ↦ key a < key b := ⟨fun a b hab hba ↦ absurd hba hab.asymm⟩
  exact h.eq_of_mem_iff h' hmem

theorem mergeSort_congr (h : ∀ a b, le a b ↔ key a ≤ key b) (hd : (l.map key).Nodup)
    (hp : l.Perm l') : l.mergeSort le = l'.mergeSort le := by
  have hd' : (l'.map key).Nodup := (hp.map key).nodup_iff.mp hd
  refine eq_of_ascending (mergeSort_ascends_strictly h hd) (mergeSort_ascends_strictly h hd') ?_
  intro a
  rw [List.mem_mergeSort, List.mem_mergeSort, hp.mem_iff]

theorem filter_mergeSort (h : ∀ a b, le a b ↔ key a ≤ key b) (l : List α) (k : β) :
    (l.mergeSort le).filter (key · = k) = l.filter (key · = k) := by
  have htied : (l.filter (key · = k)).Pairwise (le · ·) := by
    refine List.pairwise_of_forall_mem_list fun a ha b hb ↦ (h a b).mpr (le_of_eq ?_)
    exact (of_decide_eq_true (List.mem_filter.mp ha).2).trans
      (of_decide_eq_true (List.mem_filter.mp hb).2).symm
  have hsub : (l.filter (key · = k)).Sublist (l.mergeSort le) :=
    List.sublist_mergeSort (trans_of_key h) (total_of_key h) htied List.filter_sublist
  have hfilter : (l.filter (key · = k)).Sublist ((l.mergeSort le).filter (key · = k)) := by
    simpa only [List.filter_filter, Bool.and_self] using hsub.filter (key · = k)
  have hlength := ((List.mergeSort_perm l le).filter (key · = k)).length_eq
  exact (hfilter.eq_of_length hlength.symm).symm

/-- The sort leaves what is tied in its order. -/
theorem mergeSort_stable {r : α → α → Prop} (h : ∀ a b, le a b ↔ key a ≤ key b)
    (hl : l.Pairwise r) :
    (l.mergeSort le).Pairwise fun a b ↦ key a < key b ∨ key a = key b ∧ r a b := by
  refine List.pairwise_iff_forall_sublist.mpr fun {a b} hab ↦ ?_
  rcases (List.pairwise_iff_forall_sublist.mp (mergeSort_ascends h l) hab).lt_or_eq with hlt | heq
  · exact Or.inl hlt
  · -- the two stand in the same order among those of their key, which the sort leaves alone
    have hpair := hab.filter (key · = key b)
    rw [filter_mergeSort h] at hpair
    simp only [heq, decide_true, List.filter_cons_of_pos, List.filter_nil] at hpair
    exact Or.inr ⟨heq, List.pairwise_iff_forall_sublist.mp (hl.filter _) hpair⟩

end ParkFusion
