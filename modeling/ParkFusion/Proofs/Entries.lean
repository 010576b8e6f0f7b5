import Mathlib.Data.List.Induction
import Mathlib.Data.String.Basic
import ParkFusion.Entries
import ParkFusion.Proofs.Sorting

namespace ParkFusion.Entries

variable {α : Type} {entries entries' : List (String × α)} {key : String} {a : α}

theorem keepLast_concat (entries : List (String × α)) (entry : String × α) :
    keepLast (entries ++ [entry]) = (keepLast entries).filter (·.1 ≠ entry.1) ++ [entry] := by
  rw [keepLast, List.foldl_append]
  rfl

theorem keepLast_eq_self (h : (entries.map (·.1)).Nodup) :
    keepLast entries = entries := by
  induction entries using List.reverseRecOn with
  | nil => rfl
  | append_singleton entries entry ih =>
    rw [List.map_append, List.nodup_append'] at h
    have hkeep : ∀ e ∈ entries, decide (e.1 ≠ entry.1) := by
      intro e he
      have hne := h.2.2 (List.mem_map_of_mem (f := (·.1)) he)
      simpa using hne
    rw [keepLast_concat, ih h.1, List.filter_eq_self.mpr hkeep]

theorem keepLast_subset (entries : List (String × α)) : keepLast entries ⊆ entries := by
  induction entries using List.reverseRecOn with
  | nil => exact List.Subset.refl _
  | append_singleton entries entry ih =>
    rw [keepLast_concat]
    refine List.append_subset.mpr ⟨fun e he ↦ ?_, List.subset_append_right _ _⟩
    exact List.mem_append_left _ (ih (List.mem_filter.mp he).1)

theorem sort_perm (entries : List (String × α)) : (sort entries).Perm entries :=
  List.mergeSort_perm entries _

theorem sort_congr (h : (entries.map (·.1)).Nodup) (hp : entries.Perm entries') :
    sort entries = sort entries' := by
  refine mergeSort_congr (fun a b ↦ ?_) h hp
  rw [Bool.not_eq_true', decide_eq_false_iff_not, not_lt]

theorem sort_keys (entries : List (String × α)) :
    (sort entries).map (·.1) = (entries.map (·.1)).mergeSort := by
  refine List.map_mergeSort fun a _ b _ ↦ ?_
  rw [← decide_not]
  exact decide_eq_decide.mpr String.not_lt

theorem lookup_of_mem (h : (entries.map (·.1)).Nodup) (hm : (key, a) ∈ entries) :
    entries.lookup key = some a := by
  obtain ⟨before, after, rfl⟩ := List.append_of_mem hm
  rw [List.lookup_eq_some_iff]
  refine ⟨before, after, rfl, fun entry he ↦ ?_⟩
  rw [List.map_append, List.map_cons, List.nodup_append'] at h
  have hne : entry.1 ≠ key := by
    rintro rfl
    exact h.2.2 (List.mem_map_of_mem he) List.mem_cons_self
  simpa using hne.symm

theorem mem_of_lookup (h : entries.lookup key = some a) : (key, a) ∈ entries := by
  obtain ⟨before, after, rfl, -⟩ := List.lookup_eq_some_iff.mp h
  simp

theorem lookup_congr (h : (entries.map (·.1)).Nodup) (hp : entries.Perm entries') :
    entries.lookup key = entries'.lookup key := by
  have h' : (entries'.map (·.1)).Nodup := (hp.map (·.1)).nodup_iff.mp h
  refine Option.ext fun a ↦ ⟨fun ha ↦ ?_, fun ha ↦ ?_⟩
  · exact lookup_of_mem h' (hp.subset (mem_of_lookup ha))
  · exact lookup_of_mem h (hp.symm.subset (mem_of_lookup ha))

theorem lookup_eq_none (h : entries.lookup key = none) : key ∉ entries.map (·.1) := by
  intro hm
  obtain ⟨entry, he, rfl⟩ := List.mem_map.mp hm
  have hne := List.lookup_eq_none_iff.mp h entry he
  simp at hne

/-- Taking out the entry of a key leaves the others. -/
theorem perm_cons_filter (h : (entries.map (·.1)).Nodup) (ha : entries.lookup key = some a) :
    ((key, a) :: entries.filter (·.1 ≠ key)).Perm entries := by
  have hnew : (key, a) ∉ entries.filter (·.1 ≠ key) := by simp
  have hnodup : ((key, a) :: entries.filter (·.1 ≠ key)).Nodup :=
    List.nodup_cons.mpr ⟨hnew, h.of_map.filter _⟩
  refine (List.perm_ext_iff_of_nodup hnodup h.of_map).mpr fun entry ↦ ?_
  simp only [List.mem_cons, List.mem_filter, decide_eq_true_eq]
  constructor
  · rintro (rfl | ⟨he, -⟩)
    · exact mem_of_lookup ha
    · exact he
  · intro he
    by_cases hkey : entry.1 = key
    · exact Or.inl (List.inj_on_of_nodup_map h he (mem_of_lookup ha) hkey)
    · exact Or.inr ⟨he, hkey⟩

theorem filter_keys_nodup (h : (entries.map (·.1)).Nodup) (p : String × α → Bool) :
    ((entries.filter p).map (·.1)).Nodup :=
  h.sublist (List.filter_sublist.map Prod.fst)

theorem keepLast_keys_nodup (entries : List (String × α)) :
    ((keepLast entries).map (·.1)).Nodup := by
  induction entries using List.reverseRecOn with
  | nil => exact List.nodup_nil
  | append_singleton entries entry ih =>
    rw [keepLast_concat, List.map_append, List.nodup_append']
    refine ⟨filter_keys_nodup ih _, List.nodup_singleton _, ?_⟩
    simp

theorem filter_keys (p : String → Bool) (entries : List (String × α)) :
    (entries.filter fun entry ↦ p entry.1).map (·.1) = (entries.map (·.1)).filter p :=
  List.filter_map.symm

end ParkFusion.Entries
